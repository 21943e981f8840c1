import CommandQueue.Queue

/-!
# The manual queue

The manual queue runs nothing by itself.  It keeps what it takes until it is told
to complete it, can be told to refuse submissions, and can hold on to streams
after their signals are completed.
-/

namespace CommandQueue

/-- A queue driven from outside. -/
structure ManualQueue where
  label : String
  /-- The submissions taken and not finished, the oldest first. -/
  pending : List Submission
  /-- Finished submissions whose streams are kept. -/
  held : List Submission
  /-- Submissions are finished as soon as they are taken. -/
  auto : Bool
  /-- Streams are kept after their submissions are finished. -/
  hold : Bool
  /-- The number of submissions still to be refused. -/
  rejections : Nat
  /-- Refusals report the queue as closed instead of full. -/
  closed : Bool
  accepted : Nat
  rejected : Nat
  /-- A submission has been seen, and with it the timeline. -/
  fenceSeen : Bool

namespace ManualQueue

def defaultLabel : String := "manual"

/-- The number of bytes that a command takes: a copy holds two buffers of two words each. -/
def commandWidth : Nat := 64

def new (label : String) : ManualQueue where
  label := label
  pending := []
  held := []
  auto := false
  hold := false
  rejections := 0
  closed := false
  accepted := 0
  rejected := 0
  fenceSeen := false

/-- Let the streams of a submission go, or keep them. -/
def letGo (queue : ManualQueue) (submission : Submission) : ManualQueue :=
  if queue.hold then { queue with held := queue.held ++ [submission] } else queue

/-- Finish every submission in order and complete its signal. -/
def finishAll : List Submission → ManualQueue → Fence → Clocked ManualQueue
  | [], queue, fence => ⟨queue, fence⟩
  | submission :: rest, queue, fence =>
      finishAll rest (queue.letGo submission) ((fence.complete? submission.signal).getD fence)

def refusal (queue : ManualQueue) : Error :=
  if queue.closed then .queueClosed queue.label else .backend "queue full"

/-- Take a submission, unless one is to be refused. -/
def submit (queue : ManualQueue) (fence : Fence) (submission : Submission) :
    Outcome (Clocked ManualQueue) Unit :=
  let seen := { queue with fenceSeen := true }
  if queue.rejections = 0 then
    let taken :=
      { seen with
        pending := seen.pending ++ [submission]
        accepted := seen.accepted + 1 }
    let next : Clocked ManualQueue :=
      if taken.auto then
        finishAll taken.pending { taken with pending := [] } fence
      else
        ⟨taken, fence⟩
    .done next () []
  else
    let refusing :=
      { seen with
        rejections := seen.rejections - 1
        rejected := seen.rejected + 1 }
    .refused ⟨refusing, fence⟩ queue.refusal []

/-- Finish the submission with a signal, if there is one. -/
def finish (queue : ManualQueue) (signal : FenceValue) : ManualQueue :=
  match queue.pending.find? fun submission => submission.signal == signal with
  | none => queue
  | some submission =>
      { queue with
        pending := queue.pending.eraseP fun waiting => waiting.signal == signal
      }.letGo submission

def releaseHeld (queue : ManualQueue) : ManualQueue :=
  { queue with held := [] }

def holds (queue : ManualQueue) (list : ListId) : Bool :=
  queue.pending.any (fun submission => submission.mentions list) ||
    queue.held.any fun submission => submission.mentions list

instance : Queue ManualQueue where
  label := label
  commandWidth _ := commandWidth
  holds := holds
  submit queue fence _ submission := queue.submit fence submission
  settle queue fence _ scene := ⟨queue, fence, scene, []⟩

end ManualQueue

end CommandQueue
