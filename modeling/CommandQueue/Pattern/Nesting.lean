import CommandQueue.Pattern.Problem
import CommandQueue.Pattern.Term

/-!
# Nesting

Parts of a pattern are nested only to a fixed depth.  A part that has parts of
its own counts as one level, and so does a class.
-/

namespace CommandQueue.Pattern

mutual

/-- The first part of a class that lies deeper than a number of levels. -/
def ClassTerm.tooDeep? (levels : Nat) : ClassTerm → Option Span
  | .empty _ | .character _ | .range .. | .named .. | .shorthand .. | .property .. => none
  | .bracketed span _ contents =>
      match levels with
      | 0 => some span
      | fewer + 1 => contents.tooDeep? fewer
  | .together span items =>
      match levels with
      | 0 => some span
      | fewer + 1 => ClassTerm.tooDeepIn? fewer items
  | .operation span _ left right =>
      match levels with
      | 0 => some span
      | fewer + 1 => left.tooDeep? fewer <|> right.tooDeep? fewer

def ClassTerm.tooDeepIn? (levels : Nat) : List ClassTerm → Option Span
  | [] => none
  | item :: rest => item.tooDeep? levels <|> ClassTerm.tooDeepIn? levels rest

end

mutual

/-- The first part of a term that lies deeper than a number of levels. -/
def Term.tooDeep? (levels : Nat) : Term → Option Span
  | .empty _ | .flags .. | .character _ | .dot _ | .assertion .. | .shorthand ..
  | .property .. => none
  | .bracketed span _ contents =>
      match levels with
      | 0 => some span
      | fewer + 1 => contents.tooDeep? fewer
  | .repetition span _ body =>
      match levels with
      | 0 => some span
      | fewer + 1 => body.tooDeep? fewer
  | .group span _ _ body =>
      match levels with
      | 0 => some span
      | fewer + 1 => body.tooDeep? fewer
  | .sequence span parts =>
      match levels with
      | 0 => some span
      | fewer + 1 => Term.tooDeepIn? fewer parts
  | .choice span branches =>
      match levels with
      | 0 => some span
      | fewer + 1 => Term.tooDeepIn? fewer branches

def Term.tooDeepIn? (levels : Nat) : List Term → Option Span
  | [] => none
  | part :: rest => part.tooDeep? levels <|> Term.tooDeepIn? levels rest

end

def Term.ensureShallow (term : Term) : Except Complaint Unit :=
  match term.tooDeep? Problem.nestingLimit with
  | none => .ok ()
  | some span => .error ⟨.nesting, span, none⟩

end CommandQueue.Pattern
