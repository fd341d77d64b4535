import SiftKit.RepoSearch.EditTool

/-! # What an edit does to a file

The matches of the edits are parts of the original text that do not depend on the order of the edits.
When every edit has one match, and the matches are apart, the walk replaces all of them at once.
-/

namespace SiftKit.RepoSearch

open SiftKit.Json SiftKit.Replacement ResolvedEdit

/-! ## Matches -/

/-- The part is where the old text occurs, and the only place where it does. -/
structure MatchedBy (text : JsString) (edit : EditReplacement) (part : Splice CodeUnit) : Prop where
  occurs : OccursAt text edit.oldText part.start
  only : ∀ position, OccursAt text edit.oldText position → position = part.start
  stop : part.stop = part.start + edit.oldText.length
  replacement : part.replacement = edit.newText

def Matches (text : JsString) (edits : List EditReplacement) (parts : List (Splice CodeUnit)) : Prop :=
  List.Forall₂ (MatchedBy text) edits parts

def ResolvedEdit.splice (edit : ResolvedEdit) : Splice CodeUnit := ⟨edit.start, edit.stop, edit.newText⟩

variable {text : JsString} {edits : List EditReplacement} {parts : List (Splice CodeUnit)}

variable {edit : EditReplacement} {part : Splice CodeUnit} {ordered : List ResolvedEdit}

theorem MatchedBy.within (matched : MatchedBy text edit part) (nonEmpty : edit.oldText ≠ []) : part.Within text := by
  have bound := matched.occurs.bound nonEmpty
  have positive : 0 < edit.oldText.length := List.length_pos_iff.mpr nonEmpty
  rw [Splice.Within, matched.stop]
  omega

def matchOf (text : JsString) (edit : EditReplacement) : Splice CodeUnit :=
  let start := (indexOf edit.oldText text).getD 0
  ⟨start, start + edit.oldText.length, edit.newText⟩

theorem MatchedBy.eq_matchOf (matched : MatchedBy text edit part) : part = matchOf text edit := by
  obtain ⟨start, stop, replacement⟩ := part
  obtain rfl : stop = start + edit.oldText.length := matched.stop
  obtain rfl : replacement = edit.newText := matched.replacement
  cases found : indexOf edit.oldText text with
  | none => exact absurd matched.occurs (indexOf_eq_none found start)
  | some position =>
    obtain rfl : position = start := matched.only position (indexOf_eq_some found)
    rw [matchOf, found, Option.getD_some]

section

variable (matched : Matches text edits parts)

include matched

theorem Matches.eq_map : parts = edits.map (matchOf text) := by
  induction matched with
  | nil => rfl
  | cons first _ ih => rw [List.map_cons, ← first.eq_matchOf, ← ih]

theorem Matches.within (nonEmpty : ∀ edit ∈ edits, edit.oldText ≠ []) : ∀ part ∈ parts, part.Within text := by
  induction matched with
  | nil => exact fun part member => absurd member List.not_mem_nil
  | cons first _ ih =>
    rw [List.forall_mem_cons] at nonEmpty ⊢
    exact ⟨first.within nonEmpty.1, ih nonEmpty.2⟩

theorem Matches.each : ∀ edit ∈ edits, MatchedBy text edit (matchOf text edit) := by
  obtain rfl := matched.eq_map
  exact List.forall₂_same.mp (List.forall₂_map_right_iff.mp matched)

theorem Matches.perm {others : List EditReplacement} (same : edits.Perm others) :
    ∃ otherParts, Matches text others otherParts ∧ parts.Perm otherParts := by
  refine ⟨others.map (matchOf text), ?_, matched.eq_map ▸ same.map (matchOf text)⟩
  apply List.forall₂_map_right_iff.mpr
  exact List.forall₂_same.mpr fun edit member => matched.each edit (same.mem_iff.mpr member)

end

/-! ## Resolving -/

theorem resolveEdit_eq_ok {index : Nat} {found : ResolvedEdit} (resolved : resolveEdit text index edit = .ok found) :
    MatchedBy text edit found.splice := by
  unfold resolveEdit at resolved
  cases first : indexOf edit.oldText text with
  | none => simp [first] at resolved
  | some start =>
    cases last : indexOfFrom text edit.oldText (start + 1) with
    | some second => simp [first, last] at resolved
    | none =>
      simp only [first, last, Except.ok.injEq] at resolved
      subst resolved
      exact ⟨indexOf_eq_some first, only_occurrence first last, rfl, rfl⟩

theorem MatchedBy.resolveEdit (matched : MatchedBy text edit part) (nonEmpty : edit.oldText ≠ []) (index : Nat) :
    ∃ found, RepoSearch.resolveEdit text index edit = .ok found ∧ found.splice = part := by
  obtain ⟨first, last⟩ := search_of_unique nonEmpty matched.occurs matched.only
  refine ⟨⟨index, part.start, part.start + edit.oldText.length, edit.newText⟩, by
    simp only [RepoSearch.resolveEdit, first, last], ?_⟩
  rw [splice, ← matched.stop, ← matched.replacement]

theorem resolveEach_matches {index : Nat} (noFailure : (resolveEach text index edits).1 = []) :
    Matches text edits ((resolveEach text index edits).2.map splice) := by
  induction edits generalizing index with
  | nil => exact .nil
  | cons edit rest ih =>
    cases resolved : resolveEdit text index edit with
    | error failure => simp [resolveEach, resolved] at noFailure
    | ok found =>
      simp only [resolveEach, resolved] at noFailure ⊢
      exact .cons (resolveEdit_eq_ok resolved) (ih noFailure)

theorem Matches.resolveEach (matched : Matches text edits parts) (nonEmpty : ∀ edit ∈ edits, edit.oldText ≠ []) (index : Nat) :
    (RepoSearch.resolveEach text index edits).1 = [] ∧
      (RepoSearch.resolveEach text index edits).2.map splice = parts := by
  induction matched generalizing index with
  | nil => exact ⟨rfl, rfl⟩
  | cons first _ ih =>
    rw [List.forall_mem_cons] at nonEmpty
    obtain ⟨found, resolved, rfl⟩ := first.resolveEdit nonEmpty.1 index
    obtain ⟨noFailure, later⟩ := ih nonEmpty.2 (index + 1)
    simp only [RepoSearch.resolveEach, resolved, noFailure, List.map_cons, later, and_self]

/-! ## Overlaps -/

theorem pairwise_of_findOverlap (noOverlap : findOverlap text ordered = none)
    (proper : ∀ edit ∈ ordered, edit.start ≤ edit.stop) : (ordered.map splice).Pairwise Splice.Before := by
  fun_induction findOverlap text ordered with
  | case1 first second rest overlap => exact absurd noOverlap (Option.some_ne_none _)
  | case2 first second rest apart ih =>
    rw [List.forall_mem_cons] at proper
    have later := ih noOverlap proper.2
    rw [List.map_cons, List.pairwise_cons]
    refine ⟨fun part member => ?_, later⟩
    have here : first.stop ≤ second.start := Nat.not_lt.mp apart
    rw [List.map_cons, List.mem_cons] at member
    rcases member with rfl | member
    · exact here
    · have next : second.stop ≤ part.start := (List.pairwise_cons.mp later).1 part member
      exact here.trans ((proper.2 second List.mem_cons_self).trans next)
  | case3 edits short =>
    match edits, short with
    | [], _ => exact .nil
    | [edit], _ => exact List.pairwise_singleton _ _
    | first :: second :: rest, short => exact absurd rfl (short first second rest)

theorem findOverlap_of_pairwise (apart : (ordered.map splice).Pairwise Splice.Before) :
    findOverlap text ordered = none := by
  fun_induction findOverlap text ordered with
  | case1 first second rest overlap =>
    have before : first.stop ≤ second.start := (List.pairwise_cons.mp apart).1 second.splice List.mem_cons_self
    omega
  | case2 first second rest _ ih => exact ih (List.pairwise_cons.mp apart).2
  | case3 edits short => rfl

theorem byStart_perm (resolved : List ResolvedEdit) : (byStart resolved).Perm resolved := List.perm_insertionSort _ resolved

theorem byStart_sorted (resolved : List ResolvedEdit) :
    (byStart resolved).Pairwise fun left right => left.start ≤ right.start := by
  have : Std.Total fun left right : ResolvedEdit => left.start ≤ right.start := ⟨fun left right => Nat.le_total _ _⟩
  have : IsTrans ResolvedEdit fun left right => left.start ≤ right.start := ⟨fun _ _ _ => Nat.le_trans⟩
  exact List.pairwise_insertionSort _ resolved

theorem Splice.pairwise_before_of_sorted {sorted : List (Splice CodeUnit)} (apart : sorted.Pairwise Splice.Apart)
    (order : sorted.Pairwise fun left right => left.start ≤ right.start) (proper : ∀ part ∈ sorted, part.Within text) :
    sorted.Pairwise Splice.Before := by
  induction sorted with
  | nil => exact .nil
  | cons part rest ih =>
    rw [List.pairwise_cons] at apart order ⊢
    rw [List.forall_mem_cons] at proper
    refine ⟨fun other member => ?_, ih apart.2 order.2 proper.2⟩
    exact (apart.1 other member).before (proper.2 other member) (order.1 other member)

/-- What a successful resolution found: one part for every edit, all apart, in the order of the text. -/
theorem resolveEdits_eq_ok (nonEmpty : ∀ edit ∈ edits, edit.oldText ≠ [])
    (resolved : resolveEdits text edits = .ok ordered) :
    ∃ parts, Matches text edits parts ∧ parts.Perm (ordered.map splice) ∧
      (ordered.map splice).Pairwise Splice.Before := by
  unfold resolveEdits at resolved
  dsimp only at resolved
  split at resolved
  next failed => exact absurd resolved (by simp)
  next noFailure =>
    cases overlap : findOverlap text (byStart (resolveEach text 0 edits).2) with
    | some message => simp [overlap] at resolved
    | none =>
      simp only [overlap, Except.ok.injEq] at resolved
      subst resolved
      have matched := @resolveEach_matches text edits 0
        (List.length_eq_zero_iff.mp (Nat.eq_zero_of_not_pos noFailure))
      have same := byStart_perm (resolveEach text 0 edits).2
      refine ⟨_, matched, (same.map splice).symm, pairwise_of_findOverlap overlap fun edit member => ?_⟩
      have within := matched.within nonEmpty edit.splice (List.mem_map_of_mem (same.mem_iff.mp member))
      exact within.1.le

theorem Matches.resolveEdits (matched : Matches text edits parts) (nonEmpty : ∀ edit ∈ edits, edit.oldText ≠ [])
    (apart : parts.Pairwise Splice.Apart) : ∃ ordered, RepoSearch.resolveEdits text edits = .ok ordered := by
  obtain ⟨noFailure, found⟩ := matched.resolveEach nonEmpty 0
  have same := (byStart_perm (RepoSearch.resolveEach text 0 edits).2).map splice
  rw [found] at same
  have before : ((byStart (RepoSearch.resolveEach text 0 edits).2).map splice).Pairwise Splice.Before :=
    Splice.pairwise_before_of_sorted ((same.pairwise_iff Splice.Apart.symm).mpr apart)
      (List.pairwise_map.mpr (byStart_sorted _)) fun part member => matched.within nonEmpty part (same.mem_iff.mp member)
  refine ⟨byStart (RepoSearch.resolveEach text 0 edits).2, ?_⟩
  simp only [RepoSearch.resolveEdits, noFailure, List.length_nil, Nat.lt_irrefl, if_false, findOverlap_of_pairwise before]

/-! ## Applying -/

theorem applyResolved_eq (updatedText : JsString) (cursor : Nat) (ordered : List ResolvedEdit) :
    applyResolved text updatedText cursor ordered = updatedText ++ walk text cursor (ordered.map splice) := by
  induction ordered generalizing updatedText cursor with
  | nil => rfl
  | cons edit rest ih =>
    rw [applyResolved, ih, List.map_cons, walk, List.append_assoc]
    rfl

theorem applyResolved_replaceAll (nonEmpty : ∀ edit ∈ edits, edit.oldText ≠ [])
    (resolved : resolveEdits text edits = .ok ordered) (matched : Matches text edits parts) :
    applyResolved text [] 0 ordered = replaceAll text parts := by
  obtain ⟨others, matchedOthers, same, before⟩ := resolveEdits_eq_ok nonEmpty resolved
  obtain rfl : others = parts := matchedOthers.eq_map.trans matched.eq_map.symm
  have proper : ∀ part ∈ ordered.map splice, part.Within text := fun part member =>
    matched.within nonEmpty part (same.mem_iff.mpr member)
  rw [applyResolved_eq, List.nil_append, walk_eq_replaceAll text before proper]
  exact (replaceAll_perm text (before.imp Splice.Before.apart) same.symm)

/-! ## The tool -/

/-- Wherever the two old texts occur, the one ends before the other starts. -/
def EditsApart (text : JsString) (edit other : EditReplacement) : Prop :=
  ∀ position otherPosition, OccursAt text edit.oldText position → OccursAt text other.oldText otherPosition →
    position + edit.oldText.length ≤ otherPosition ∨ otherPosition + other.oldText.length ≤ position

theorem MatchedBy.apart_iff {other : EditReplacement} {otherPart : Splice CodeUnit}
    (matched : MatchedBy text edit part) (matchedOther : MatchedBy text other otherPart)
    (nonEmpty : edit.oldText ≠ []) (nonEmptyOther : other.oldText ≠ []) :
    EditsApart text edit other ↔ part.Apart otherPart := by
  constructor
  · intro apart
    have order := apart part.start otherPart.start matched.occurs matchedOther.occurs
    rw [← matched.stop, ← matchedOther.stop] at order
    rcases order with before | after
    · have ordered : part.Before otherPart := before
      exact ordered.apart
    · have ordered : otherPart.Before part := after
      exact ordered.apart.symm
  · intro apart position otherPosition occurs occursOther
    obtain rfl := matched.only position occurs
    obtain rfl := matchedOther.only otherPosition occursOther
    rw [← matched.stop, ← matchedOther.stop]
    rcases Nat.le_total part.start otherPart.start with starts | starts
    · exact .inl (apart.before (matchedOther.within nonEmptyOther) starts)
    · exact .inr (apart.symm.before (matched.within nonEmpty) starts)

theorem Matches.pairwise_apart (matched : Matches text edits parts) (nonEmpty : ∀ edit ∈ edits, edit.oldText ≠ []) :
    edits.Pairwise (EditsApart text) ↔ parts.Pairwise Splice.Apart := by
  rw [matched.eq_map, List.pairwise_map]
  apply List.Pairwise.iff_of_mem
  intro edit other member memberOther
  exact (matched.each edit member).apart_iff (matched.each other memberOther) (nonEmpty edit member)
    (nonEmpty other memberOther)

/-- Every edit has one match exactly when there is a list of matches. -/
theorem exists_matches : (∀ edit ∈ edits, ∃! position, OccursAt text edit.oldText position) ↔
    ∃ parts, Matches text edits parts := by
  constructor
  · intro unique
    induction edits with
    | nil => exact ⟨[], .nil⟩
    | cons edit rest ih =>
      rw [List.forall_mem_cons] at unique
      obtain ⟨position, occurs, only⟩ := unique.1
      obtain ⟨parts, matched⟩ := ih unique.2
      exact ⟨⟨position, position + edit.oldText.length, edit.newText⟩ :: parts, .cons ⟨occurs, only, rfl, rfl⟩ matched⟩
  · rintro ⟨parts, matched⟩
    induction matched with
    | nil => exact fun edit member => absurd member List.not_mem_nil
    | cons first _ ih => exact List.forall_mem_cons.mpr ⟨⟨_, first.occurs, first.only⟩, ih⟩

/-- The edits are resolved exactly when each has one match, and the matches are apart. -/
theorem resolveEdits_ok_iff (nonEmpty : ∀ edit ∈ edits, edit.oldText ≠ []) :
    (∃ ordered, resolveEdits text edits = .ok ordered) ↔
      (∀ edit ∈ edits, ∃! position, OccursAt text edit.oldText position) ∧ edits.Pairwise (EditsApart text) := by
  constructor
  · rintro ⟨ordered, resolved⟩
    obtain ⟨parts, matched, same, before⟩ := resolveEdits_eq_ok nonEmpty resolved
    refine ⟨exists_matches.mpr ⟨parts, matched⟩, (matched.pairwise_apart nonEmpty).mpr ?_⟩
    exact (same.symm.pairwise_iff Splice.Apart.symm).mp (before.imp Splice.Before.apart)
  · rintro ⟨unique, apart⟩
    obtain ⟨parts, matched⟩ := exists_matches.mp unique
    exact matched.resolveEdits nonEmpty ((matched.pairwise_apart nonEmpty).mp apart)

section Call

variable {context : RepoToolContext} {files : Files} {args : EditToolArgs} {path : ResolvedPath} {buffer : List UInt8}

theorem executeEdit_failed (context : RepoToolContext) (files : Files) (args : EditToolArgs)
    (failed : (executeEdit args context files).1.ok = false) : (executeEdit args context files).2 = files := by
  cases located : context.resolveRepoScopedPath args.path with
  | none => simp only [executeEdit, located]
  | some path =>
    cases ignored : context.isRepoRelativePathIgnored path.relativePath with
    | true => simp only [executeEdit, located, ignored, if_true]
    | false =>
      cases present : files path.absolutePath with
      | none => simp [executeEdit, located, ignored, present]
      | some buffer =>
        cases resolved : resolveEdits (normalizeLineEnds (decodeTextBuffer buffer)) args.edits with
        | error reason => simp [executeEdit, located, ignored, present, resolved]
        | ok ordered => simp [executeEdit, located, ignored, present, resolved, RepoToolExecution.ok] at failed

theorem executeEdit_file (inRepository : context.resolveRepoScopedPath args.path = some path)
    (allowed : context.isRepoRelativePathIgnored path.relativePath = false)
    (present : files path.absolutePath = some buffer) :
    ((executeEdit args context files).1.ok = true ↔
      ∃ ordered, resolveEdits (normalizeLineEnds (decodeTextBuffer buffer)) args.edits = .ok ordered) ∧
    ∀ ordered, resolveEdits (normalizeLineEnds (decodeTextBuffer buffer)) args.edits = .ok ordered →
      (executeEdit args context files).2 = Function.update files path.absolutePath (some (encodeUtf8
        (applyEolStyle (applyResolved (normalizeLineEnds (decodeTextBuffer buffer)) [] 0 ordered)
          (detectEolStyle (decodeTextBuffer buffer))))) := by
  unfold executeEdit
  simp only [inRepository, allowed, present, Bool.false_eq_true, if_false]
  cases resolved : resolveEdits (normalizeLineEnds (decodeTextBuffer buffer)) args.edits with
  | error reason => simp [RepoToolExecution.ok]
  | ok ordered =>
    simp only [RepoToolExecution.ok, Except.ok.injEq, exists_eq', true_and]
    rintro _ rfl
    rfl

/-- A successful call replaces every match in the original text, and writes the result in the file's style. -/
theorem executeEdit_written (nonEmpty : ∀ edit ∈ args.edits, edit.oldText ≠ [])
    (inRepository : context.resolveRepoScopedPath args.path = some path)
    (allowed : context.isRepoRelativePathIgnored path.relativePath = false)
    (present : files path.absolutePath = some buffer) (succeeded : (executeEdit args context files).1.ok = true)
    (matched : Matches (normalizeLineEnds (decodeTextBuffer buffer)) args.edits parts) :
    (executeEdit args context files).2 = Function.update files path.absolutePath (some (encodeUtf8
      (applyEolStyle (replaceAll (normalizeLineEnds (decodeTextBuffer buffer)) parts)
        (detectEolStyle (decodeTextBuffer buffer))))) := by
  obtain ⟨succeeds, writes⟩ := executeEdit_file inRepository allowed present
  obtain ⟨ordered, resolved⟩ := succeeds.mp succeeded
  rw [writes ordered resolved, applyResolved_replaceAll nonEmpty resolved matched]

theorem EditsApart.symm {edit other : EditReplacement} (apart : EditsApart text edit other) : EditsApart text other edit :=
  fun position otherPosition occurs occursOther => (apart otherPosition position occursOther occurs).symm

/-- The order of the edits does not matter. -/
theorem executeEdit_perm (inRepository : context.resolveRepoScopedPath args.path = some path)
    (allowed : context.isRepoRelativePathIgnored path.relativePath = false)
    (present : files path.absolutePath = some buffer) (nonEmpty : ∀ edit ∈ args.edits, edit.oldText ≠ [])
    {edits : List EditReplacement} (same : args.edits.Perm edits) :
    (executeEdit { args with edits } context files).1.ok = (executeEdit args context files).1.ok ∧
      (executeEdit { args with edits } context files).2 = (executeEdit args context files).2 := by
  have nonEmptyOthers : ∀ edit ∈ edits, edit.oldText ≠ [] := fun edit member => nonEmpty edit (same.mem_iff.mpr member)
  have accepted := (executeEdit_file inRepository allowed present).1.trans (resolveEdits_ok_iff nonEmpty)
  have acceptedOthers := (@executeEdit_file context files { args with edits } path buffer inRepository allowed present).1.trans
    (resolveEdits_ok_iff nonEmptyOthers)
  have agree : (executeEdit { args with edits } context files).1.ok = (executeEdit args context files).1.ok := by
    rw [Bool.eq_iff_iff, accepted, acceptedOthers, same.pairwise_iff EditsApart.symm]
    exact and_congr_left fun _ => forall_congr' fun edit => imp_congr_left same.mem_iff.symm
  refine ⟨agree, ?_⟩
  cases ok : (executeEdit args context files).1.ok with
  | false =>
    rw [executeEdit_failed context files args ok]
    exact executeEdit_failed context files { args with edits } (agree.trans ok)
  | true =>
    obtain ⟨parts, matched⟩ := exists_matches.mp (accepted.mp ok).1
    obtain ⟨otherParts, matchedOthers, sameParts⟩ := matched.perm same
    have apart := (matched.pairwise_apart nonEmpty).mp (accepted.mp ok).2
    rw [executeEdit_written nonEmpty inRepository allowed present ok matched, replaceAll_perm _ apart sameParts]
    exact executeEdit_written nonEmptyOthers inRepository allowed present (agree.trans ok) matchedOthers

end Call

/-! ## Exact replacement -/

theorem not_mem_replaceAll (plainText : carriageReturn ∉ text) (plain : ∀ edit ∈ edits, carriageReturn ∉ edit.newText)
    (matched : Matches text edits parts) : carriageReturn ∉ replaceAll text parts := by
  intro member
  rcases mem_replaceAll member with inText | ⟨part, listed, inReplacement⟩
  · exact plainText inText
  · rw [matched.eq_map] at listed
    obtain ⟨edit, given, rfl⟩ := List.mem_map.mp listed
    exact plain edit given inReplacement

def sampleContext : RepoToolContext where
  resolveRepoScopedPath := fun path => some ⟨utf16 "/repo/" ++ path, path⟩
  isRepoRelativePathIgnored := fun _ => false
  shortSha256 := fun _ => utf16 "8527e44667"

def sampleFile : ResolvedPath := ⟨utf16 "/repo/src/lines.ts", utf16 "src/lines.ts"⟩

def sampleFiles (buffer : List UInt8) : Files := fun path => if path = sampleFile.absolutePath then some buffer else none

def changeTarget : EditToolArgs := ⟨utf16 "src/lines.ts", [⟨utf16 "target", utf16 "changed"⟩]⟩

def windowsFile : List UInt8 := encodeUtf8 (utf16 "keep1\r\ntarget\r\nkeep3\r\n")

/-- The part is where the old text stands in the file as it is, and what replaces it is in the same style. -/
structure WrittenMatch (style : SourceEolStyle) (rawText : JsString) (edit : EditReplacement) (part : Splice CodeUnit) :
    Prop where
  occurs : OccursAt rawText (edit.oldText.flatMap (writtenUnit style)) part.start
  stop : part.stop = part.start + (edit.oldText.flatMap (writtenUnit style)).length
  replacement : part.replacement = edit.newText.flatMap (writtenUnit style)

theorem MatchedBy.written (matched : MatchedBy text edit part) (style : SourceEolStyle) :
    WrittenMatch style (text.flatMap (writtenUnit style)) edit (part.image (writtenUnit style) text) := by
  obtain ⟨occurs, length⟩ := matched.occurs.image (writtenUnit style)
  rw [← matched.stop] at length
  exact ⟨occurs, length, congrArg (fun replacement => replacement.flatMap (writtenUnit style)) matched.replacement⟩

/-- A successful call writes the file anew as UTF-8.  Where the replaced text has no stray carriage return, a file of
uniform line ends keeps everything outside the matches, and any other file has its line ends normalized. -/
theorem edit_keeps_uniform_lines (context : RepoToolContext) (files : Files) (args : EditToolArgs) (path : ResolvedPath)
    (buffer : List UInt8) (inRepository : context.resolveRepoScopedPath args.path = some path)
    (allowed : context.isRepoRelativePathIgnored path.relativePath = false)
    (present : files path.absolutePath = some buffer) (nonEmpty : ∀ edit ∈ args.edits, edit.oldText ≠ [])
    (succeeded : (executeEdit args context files).1.ok = true) :
    let rawText := decodeTextBuffer buffer
    let originalText := normalizeLineEnds rawText
    ∃ parts, Matches originalText args.edits parts ∧
      let newText := replaceAll originalText parts
      let written := applyEolStyle newText (detectEolStyle rawText)
      (executeEdit args context files).2 path.absolutePath = some (encodeUtf8 written) ∧
      (∀ other, other ≠ path.absolutePath → (executeEdit args context files).2 other = files other) ∧
      decodeUtf8 (encodeUtf8 written) = toWellFormed written ∧
      (UniformlyLf newText →
        (UniformlyLf rawText ∨ UniformlyCrlf rawText → ∃ rawParts,
          List.Forall₂ (WrittenMatch (detectEolStyle rawText) rawText) args.edits rawParts ∧
          rawParts.Pairwise Splice.Apart ∧ written = replaceAll rawText rawParts) ∧
        (¬ (UniformlyLf rawText ∨ UniformlyCrlf rawText) → written = newText)) := by
  intro rawText originalText
  obtain ⟨ordered, resolved⟩ := (executeEdit_file inRepository allowed present).1.mp succeeded
  obtain ⟨parts, matched, same, before⟩ := resolveEdits_eq_ok nonEmpty resolved
  have written := executeEdit_written nonEmpty inRepository allowed present succeeded matched
  refine ⟨parts, matched, ?_, fun other different => ?_, decodeUtf8_encodeUtf8_any _, fun noStray => ⟨fun uniform => ?_, fun mixed => ?_⟩⟩
  · rw [written, Function.update_self]
  · rw [written, Function.update_of_ne different]
  · have proper : ∀ part ∈ ordered.map splice, part.Within originalText := fun part member =>
      matched.within nonEmpty part (same.mem_iff.mpr member)
    have raw : originalText.flatMap (writtenUnit (detectEolStyle rawText)) = rawText := written_of_uniform uniform
    refine ⟨parts.map (Splice.image (writtenUnit (detectEolStyle rawText)) originalText), ?_, ?_, ?_⟩
    · rw [matched.eq_map, List.map_map]
      apply List.forall₂_map_right_iff.mpr
      rw [List.forall₂_same]
      intro edit member
      have each := (matched.each edit member).written (detectEolStyle rawText)
      rw [raw] at each
      exact each
    · have apart := (pairwise_before_image (writtenUnit (detectEolStyle rawText)) originalText before).imp Splice.Before.apart
      exact ((same.map (Splice.image (writtenUnit (detectEolStyle rawText)) originalText)).pairwise_iff
        Splice.Apart.symm).mpr apart
    · rw [applyEolStyle_eq, normalizeLineEnds_of_uniformlyLf noStray,
        replaceAll_image _ (writtenUnit_ne_nil _) originalText before proper same, raw]
  · have style : detectEolStyle rawText = .lf := by
      cases style : detectEolStyle rawText with
      | lf => rfl
      | crlf => exact absurd (.inr (detectEolStyle_eq_crlf.mp style).2) mixed
    rw [style]
    exact normalizeLineEnds_of_uniformlyLf noStray

theorem edit_keeps_uniform_lines_windows :
    ∃ parts, (executeEdit changeTarget sampleContext (sampleFiles windowsFile)).2 sampleFile.absolutePath =
      some (encodeUtf8 (applyEolStyle (replaceAll (normalizeLineEnds (decodeTextBuffer windowsFile)) parts)
        (detectEolStyle (decodeTextBuffer windowsFile)))) :=
  have ⟨parts, _, written, _⟩ := edit_keeps_uniform_lines sampleContext (sampleFiles windowsFile) changeTarget sampleFile
    windowsFile rfl rfl rfl (by decide +kernel) (by decide +kernel)
  ⟨parts, written⟩

/-- A file of both kinds of line ends loses the one kind outside the match; a file in UTF-16 is no longer read as such. -/
theorem edit_rewrites_mixed_lines :
    let mixed := encodeUtf8 (utf16 "keep1\r\ntarget\nkeep3\n")
    let wide : List UInt8 := [0xFF, 0xFE, 0x74, 0, 0x61, 0, 0x72, 0, 0x67, 0, 0x65, 0, 0x74, 0]
    (executeEdit changeTarget sampleContext (sampleFiles mixed)).1.ok = true ∧
    ((executeEdit changeTarget sampleContext (sampleFiles mixed)).2 sampleFile.absolutePath).map
      (decodeAs (detectEncoding mixed)) = some (utf16 "keep1\nchanged\nkeep3\n") ∧
    utf16 "keep1\nchanged\nkeep3\n" ≠ utf16 "keep1\r\nchanged\nkeep3\n" ∧
    decodeTextBuffer wide = utf16 "target" ∧
    (executeEdit changeTarget sampleContext (sampleFiles wide)).1.ok = true ∧
    ((executeEdit changeTarget sampleContext (sampleFiles wide)).2 sampleFile.absolutePath).map
      (decodeAs (detectEncoding wide)) ≠ some (utf16 "changed") := by
  decide +kernel

end SiftKit.RepoSearch
