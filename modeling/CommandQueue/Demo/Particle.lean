import CommandQueue.Kernel

/-!
# Particles

The demonstration moves particles under gravity.  A particle lies in memory as
four single-precision numbers; a kernel moves the one of its group by one time
step and does nothing where there is none.
-/

namespace CommandQueue.Demo

structure Particle where
  x : Float32
  y : Float32
  velocityX : Float32
  velocityY : Float32

namespace Particle

/-- A particle as its four numbers, one word each. -/
def element : Element Particle where
  width := 16
  encode particle :=
    Element.word.encodeAll
      [particle.x.toBits, particle.y.toBits, particle.velocityX.toBits,
        particle.velocityY.toBits]
  decode bytes :=
    let number (index : Nat) : Float32 := Float32.ofBits (Element.word.decodeAt bytes index)
    ⟨number 0, number 1, number 2, number 3⟩

/-- One time step: a sixtieth of a second. -/
def timeStep : Float32 := Float32.ofNat 1 / Float32.ofNat 60

def gravity : Float32 := Float32.ofNat 981 / Float32.ofNat 100

def advance (particle : Particle) : Particle :=
  let velocityY := particle.velocityY - gravity * timeStep
  { particle with
    x := particle.x + particle.velocityX * timeStep
    y := particle.y + velocityY * timeStep
    velocityY := velocityY }

end Particle

/-- Move the particle of a number in a buffer; where there is none, nothing is moved. -/
def advanceAt (buffer : Buffer) (index : Nat) (scene : Scene) : Scene :=
  match scene.memory.readAt? Particle.element buffer index with
  | none => scene
  | some particle =>
      let offset := index * Particle.element.width
      match scene.memory.writeAll Particle.element buffer offset [particle.advance] with
      | .ok memory => { scene with memory := memory }
      | .error _ => scene

/-- Move the particle of the group in the first buffer. -/
def integrate : Program := fun invocation scene =>
  match (invocation.table 0).head? with
  | none => ⟨scene, true⟩
  | some buffer =>
      match invocation.index? with
      | none => ⟨scene, false⟩
      | some index => ⟨advanceAt buffer index scene, true⟩

end CommandQueue.Demo
