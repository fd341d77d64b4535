import Mathlib.Data.List.Basic

/-! # Cutting a stream

A text that arrives in chunks is cut at every delimiter, and what follows the last one waits for more.  When a
delimiter is found from the left, stays found under more text, and none hides behind the start of an unfinished
one, the pieces do not depend on the chunks.
-/

namespace SiftKit.StreamCutting

variable {Symbol : Type}

/-! ## The leftmost cut -/

/-- What stands before the leftmost place where `after` finds a delimiter, and what follows it. -/
def cutWith (after : List Symbol → Option (List Symbol)) : List Symbol → Option (List Symbol × List Symbol)
  | [] => (after []).map fun later => ([], later)
  | first :: rest =>
    match after (first :: rest) with
    | some later => some ([], later)
    | none => (cutWith after rest).map fun cut => (first :: cut.1, cut.2)

variable {after : List Symbol → Option (List Symbol)}

theorem cutWith_here {text later : List Symbol} (found : after text = some later) :
    cutWith after text = some ([], later) := by
  cases text with
  | nil => simp [cutWith, found]
  | cons first rest => simp [cutWith, found]

theorem cutWith_cons {first : Symbol} {rest : List Symbol} (absent : after (first :: rest) = none) :
    cutWith after (first :: rest) = (cutWith after rest).map fun cut => (first :: cut.1, cut.2) := by
  simp [cutWith, absent]

theorem cutWith_append {plain : List Symbol} (absent : ∀ symbol ∈ plain, ∀ rest, after (symbol :: rest) = none)
    (text : List Symbol) :
    cutWith after (plain ++ text) = (cutWith after text).map fun cut => (plain ++ cut.1, cut.2) := by
  induction plain with
  | nil => simp
  | cons first rest ih =>
    obtain ⟨here, others⟩ := List.forall_mem_cons.mp absent
    rw [List.cons_append, cutWith_cons (here _), ih others, Option.map_map]
    rfl

/-- A delimiter, by what follows it at the start of a text. -/
structure Delimiter (Symbol : Type) where
  after : List Symbol → Option (List Symbol)
  consumes : ∀ {text later}, after text = some later → later.length < text.length
  extends_under : ∀ {text later} (more : List Symbol), after text = some later → after (text ++ more) = some (later ++ more)
  /-- Where more text would complete one, there is none yet. -/
  unfinished : ∀ {text more later : List Symbol}, after text = none → after (text ++ more) = some later → cutWith after text = none

namespace Delimiter

variable (delimiter : Delimiter Symbol)

def cut (text : List Symbol) : Option (List Symbol × List Symbol) := cutWith delimiter.after text

variable {delimiter}

variable {text piece later : List Symbol}

theorem cut_shorter (found : delimiter.cut text = some (piece, later)) : later.length < text.length := by
  unfold cut at found
  induction text generalizing piece with
  | nil =>
    obtain ⟨rest, isAfter, isCut⟩ := Option.map_eq_some_iff.mp found
    cases isCut
    exact delimiter.consumes isAfter
  | cons first rest ih =>
    cases isAfter : delimiter.after (first :: rest) with
    | some next =>
      rw [cutWith_here isAfter] at found
      cases found
      exact delimiter.consumes isAfter
    | none =>
      rw [cutWith_cons isAfter] at found
      obtain ⟨cut, isCut, same⟩ := Option.map_eq_some_iff.mp found
      cases same
      exact Nat.lt_succ_of_lt (ih isCut)

theorem cut_append (found : delimiter.cut text = some (piece, later)) (more : List Symbol) :
    delimiter.cut (text ++ more) = some (piece, later ++ more) := by
  unfold cut at found ⊢
  induction text generalizing piece with
  | nil =>
    obtain ⟨rest, isAfter, isCut⟩ := Option.map_eq_some_iff.mp found
    cases isCut
    exact cutWith_here (delimiter.extends_under more isAfter)
  | cons first rest ih =>
    cases isAfter : delimiter.after (first :: rest) with
    | some next =>
      rw [cutWith_here isAfter] at found
      cases found
      exact cutWith_here (delimiter.extends_under more isAfter)
    | none =>
      -- a delimiter that more text completes here would leave the text uncut
      have stillAbsent : delimiter.after (first :: rest ++ more) = none := by
        cases completed : delimiter.after (first :: rest ++ more) with
        | none => rfl
        | some next =>
          rw [delimiter.unfinished isAfter completed] at found
          cases found
      rw [cutWith_cons isAfter] at found
      obtain ⟨cut, isCut, same⟩ := Option.map_eq_some_iff.mp found
      cases same
      have isLonger : cutWith delimiter.after (first :: (rest ++ more)) = _ := cutWith_cons stillAbsent
      rw [List.cons_append, isLonger, ih isCut]
      rfl

/-! ## All cuts -/

variable (delimiter)

/-- The pieces before the delimiters, and what is left after the last one. -/
def drain (text : List Symbol) : List (List Symbol) × List Symbol :=
  match _found : delimiter.cut text with
  | none => ([], text)
  | some (piece, later) => (piece :: (drain later).1, (drain later).2)
termination_by text.length
decreasing_by all_goals exact cut_shorter _found

variable {delimiter}

theorem drain_uncut (uncut : delimiter.cut text = none) : delimiter.drain text = ([], text) := by
  rw [drain]
  split
  next => rfl
  next piece later found =>
    rw [uncut] at found
    cases found

theorem drain_cut (found : delimiter.cut text = some (piece, later)) :
    delimiter.drain text = (piece :: (delimiter.drain later).1, (delimiter.drain later).2) := by
  rw [drain]
  split
  next uncut =>
    rw [found] at uncut
    cases uncut
  next otherPiece otherLater other =>
    rw [found] at other
    cases other
    rfl

theorem drain_append (text more : List Symbol) :
    delimiter.drain (text ++ more) =
      ((delimiter.drain text).1 ++ (delimiter.drain ((delimiter.drain text).2 ++ more)).1,
        (delimiter.drain ((delimiter.drain text).2 ++ more)).2) := by
  fun_induction drain delimiter text with
  | case1 text uncut => rfl
  | case2 text piece later found ih =>
    rw [drain_cut (cut_append found more), ih]
    rfl

theorem cut_rest (text : List Symbol) : delimiter.cut (delimiter.drain text).2 = none := by
  fun_induction drain delimiter text with
  | case1 text uncut => exact uncut
  | case2 text piece later found ih => exact ih

theorem drain_pieces {pieces : List (List Symbol)} {separator : List Symbol}
    (each : ∀ piece ∈ pieces, ∀ rest, delimiter.cut (piece ++ separator ++ rest) = some (piece, rest)) {rest : List Symbol}
    (uncut : delimiter.cut rest = none) :
    delimiter.drain (pieces.flatMap (· ++ separator) ++ rest) = (pieces, rest) := by
  induction pieces with
  | nil => exact drain_uncut uncut
  | cons piece others ih =>
    obtain ⟨first, later⟩ := List.forall_mem_cons.mp each
    rw [List.flatMap_cons, List.append_assoc, drain_cut (first _), ih later]

end Delimiter

end SiftKit.StreamCutting
