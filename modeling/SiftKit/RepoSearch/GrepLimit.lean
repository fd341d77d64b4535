import SiftKit.RepoSearch.ReadTexts

/-! # The limit of grep

`truncateGrepOutput` of `repo-tools.ts`: the output of `rg` is cut after as many lines as the limit allows, of
those that a pattern takes for matches.  The pattern looks for a number between two colons anywhere in a line.
-/

namespace SiftKit.RepoSearch

open SiftKit.Json

/-! ## The pattern -/

def colon : CodeUnit := 0x3A

/-- What `.` does not match. -/
def isLineTerminator (unit : CodeUnit) : Bool := unit == 0x0A || unit == 0x0D || unit == 0x2028 || unit == 0x2029

/-- `:\d+:` at the start of a text. -/
def startsNumbered : JsString → Bool
  | [] => false
  | unit :: rest => unit == colon && isNumbered rest

/-- `GREP_MATCH_LINE_PATTERN`, `/^.+?:\d+:/u`. -/
def isGrepMatchLine : JsString → Bool
  | [] => false
  | unit :: rest => !isLineTerminator unit && (startsNumbered rest || isGrepMatchLine rest)

/-! ## Truncation -/

/-- The last index before `count` at which a text stands. -/
def lastIndexBefore (lines : List JsString) (text : JsString) : Nat → Int
  | 0 => -1
  | count + 1 => if lines[count]? = some text then count else lastIndexBefore lines text count

/-- `lines.lastIndexOf(text, fromIndex)`; a negative index counts from the end. -/
def lastIndexOf (lines : List JsString) (text : JsString) (fromIndex : Int) : Int :=
  let last := if 0 ≤ fromIndex then min fromIndex (lines.length - 1) else lines.length + fromIndex
  lastIndexBefore lines text (last + 1).toNat

structure GrepScan where
  totalMatches : Nat
  lastRetainedMatchIndex : Int
  cutIndex : Int

def GrepScan.start : GrepScan := ⟨0, -1, -1⟩

def groupSeparator : JsString := utf16 "--"

/-- The loop's body. -/
def scanLine (outputLines : List JsString) (limit : Nat) (scan : GrepScan) (index : Nat) : GrepScan :=
  if isGrepMatchLine (outputLines.getD index []) then
    let totalMatches := scan.totalMatches + 1
    if totalMatches ≤ limit then { scan with totalMatches, lastRetainedMatchIndex := index }
    else if scan.cutIndex = -1 then
      let separatorIndex := lastIndexOf outputLines groupSeparator (index - 1)
      { scan with
        totalMatches
        cutIndex := if scan.lastRetainedMatchIndex < separatorIndex then separatorIndex else index }
    else { scan with totalMatches }
  else scan

def scanLines (outputLines : List JsString) (limit count : Nat) : GrepScan :=
  (List.range count).foldl (scanLine outputLines limit) GrepScan.start

/-- `... 3 more matches beyond limit=5; narrow the pattern, glob, or path.` -/
def omissionNote (omitted limit : Nat) : JsString :=
  utf16 "... " ++ numberText omitted ++ utf16 " more matches beyond limit=" ++ numberText limit ++
    utf16 "; narrow the pattern, glob, or path."

def truncateGrepOutput (outputLines : List JsString) (limit : Nat) : JsString :=
  let scan := scanLines outputLines limit outputLines.length
  if scan.cutIndex = -1 then joinLines outputLines
  else
    joinLines (outputLines.take scan.cutIndex.toNat) ++ [lineFeed] ++ omissionNote (scan.totalMatches - limit) limit

/-! ## Where the output is cut -/

/-- The lines through the last one that the limit allows, and the rest. -/
def throughLimit {Line : Type} (recognised : Line → Bool) : Nat → List Line → List Line × List Line
  | 0, lines => ([], lines)
  | _ + 1, [] => ([], [])
  | limit + 1, line :: rest =>
    let later := throughLimit recognised (if recognised line then limit else limit + 1) rest
    (line :: later.1, later.2)

/-- The lines before the last separator, or all of them if there is none. -/
def beforeLast {Line : Type} (isSeparator : Line → Bool) : List Line → List Line
  | [] => []
  | line :: rest =>
    if rest.any isSeparator then line :: beforeLast isSeparator rest
    else if isSeparator line then []
    else line :: rest

/-- The lines that stand before the group of the first line beyond the limit. -/
def linesBeforeCut {Line : Type} (recognised isSeparator : Line → Bool) (limit : Nat) (lines : List Line) : List Line :=
  (throughLimit recognised limit lines).1 ++
    beforeLast isSeparator ((throughLimit recognised limit lines).2.takeWhile fun line => !recognised line)

variable {limit : Nat}

section Cuts

variable {Line : Type} {recognised isSeparator : Line → Bool}

theorem throughLimit_append (limit : Nat) (lines : List Line) :
    (throughLimit recognised limit lines).1 ++ (throughLimit recognised limit lines).2 = lines := by
  fun_induction throughLimit recognised limit lines with
  | case1 => rfl
  | case2 => rfl
  | case3 limit line rest later ih =>
    simpa [later] using ih

theorem throughLimit_recognised {line : Line} (isRecognised : recognised line = true) (limit : Nat) (rest : List Line) :
    throughLimit recognised (limit + 1) (line :: rest) =
      (line :: (throughLimit recognised limit rest).1, (throughLimit recognised limit rest).2) := by
  simp [throughLimit, isRecognised]

theorem throughLimit_other {line : Line} (isOther : ¬ recognised line = true) (limit : Nat) (rest : List Line) :
    throughLimit recognised (limit + 1) (line :: rest) =
      (line :: (throughLimit recognised (limit + 1) rest).1, (throughLimit recognised (limit + 1) rest).2) := by
  simp [throughLimit, isOther]

variable {lines : List Line}

theorem throughLimit_spec (enough : limit < lines.countP recognised) :
    (throughLimit recognised limit lines).1.countP recognised = limit ∧
      (0 < limit → ∃ early last, (throughLimit recognised limit lines).1 = early ++ [last] ∧ recognised last = true) := by
  induction lines generalizing limit with
  | nil => simp at enough
  | cons line rest ih =>
    cases limit with
    | zero => simp [throughLimit]
    | succ limit =>
      by_cases isRecognised : recognised line = true
      · rw [List.countP_cons_of_pos isRecognised] at enough
        obtain ⟨counted, ends⟩ := @ih limit (by omega)
        rw [throughLimit_recognised isRecognised]
        refine ⟨by simp [isRecognised, counted], ?_⟩
        intro _
        rcases Nat.eq_zero_or_pos limit with rfl | positive
        · exact ⟨[], line, by simp [throughLimit], isRecognised⟩
        · obtain ⟨early, last, isEnd, recognisedLast⟩ := ends positive
          exact ⟨line :: early, last, by simp [isEnd], recognisedLast⟩
      · rw [List.countP_cons_of_neg isRecognised] at enough
        obtain ⟨counted, ends⟩ := ih enough
        rw [throughLimit_other isRecognised]
        refine ⟨by simp [isRecognised, counted], ?_⟩
        intro positive
        obtain ⟨early, last, isEnd, recognisedLast⟩ := ends positive
        exact ⟨line :: early, last, by simp [isEnd], recognisedLast⟩

theorem throughLimit_next (enough : limit < lines.countP recognised) :
    ∃ next rest, (throughLimit recognised limit lines).2 =
        (throughLimit recognised limit lines).2.takeWhile (fun line => !recognised line) ++ next :: rest ∧
      recognised next = true := by
  obtain ⟨counted, _⟩ := throughLimit_spec enough
  have whole : (throughLimit recognised limit lines).1 ++ (throughLimit recognised limit lines).2 = lines :=
    throughLimit_append limit lines
  have total : (throughLimit recognised limit lines).2.countP recognised = lines.countP recognised - limit := by
    have sum := congrArg (List.countP recognised) whole
    rw [List.countP_append, counted] at sum
    omega
  cases isRest : (throughLimit recognised limit lines).2.dropWhile (fun line => !recognised line) with
  | nil =>
    -- none would be recognised
    exfalso
    have none := List.dropWhile_eq_nil_iff.mp isRest
    have isZero : (throughLimit recognised limit lines).2.countP recognised = 0 := by
      rw [List.countP_eq_zero]
      intro line member
      simpa using none line member
    omega
  | cons next rest =>
    refine ⟨next, rest, ?_, ?_⟩
    · rw [← isRest, List.takeWhile_append_dropWhile]
    · have head := List.head?_dropWhile_not (fun line => !recognised line) (throughLimit recognised limit lines).2
      rw [isRest] at head
      simpa using head

@[simp] theorem beforeLast_snoc (lines : List Line) (last : Line) :
    beforeLast isSeparator (lines ++ [last]) =
      if isSeparator last then lines else if lines.any isSeparator then beforeLast isSeparator lines else lines ++ [last] := by
  induction lines with
  | nil => simp [beforeLast]
  | cons line rest ih =>
    rw [List.cons_append, beforeLast, ih]
    by_cases isLast : isSeparator last = true
    · simp [isLast]
    · by_cases isLater : rest.any isSeparator = true
      · simp [isLast, isLater, beforeLast]
      · by_cases isFirst : isSeparator line = true <;> simp [isLast, isLater, isFirst, beforeLast]

theorem beforeLast_prefix (lines : List Line) : beforeLast isSeparator lines <+: lines := by
  induction lines with
  | nil => exact List.prefix_refl _
  | cons line rest ih =>
    unfold beforeLast
    split
    · exact (List.cons_prefix_cons).mpr ⟨rfl, ih⟩
    · split
      · exact List.nil_prefix
      · exact List.prefix_refl _

theorem linesBeforeCut_prefix (limit : Nat) (lines : List Line) :
    linesBeforeCut recognised isSeparator limit lines <+: lines := by
  have whole : (throughLimit recognised limit lines).1 ++ (throughLimit recognised limit lines).2 = lines :=
    throughLimit_append limit lines
  nth_rewrite 2 [← whole]
  apply (List.prefix_append_right_inj _).mpr
  exact ( beforeLast_prefix _).trans (List.takeWhile_prefix _)

theorem countP_linesBeforeCut (enough : limit < lines.countP recognised) :
    (linesBeforeCut recognised isSeparator limit lines).countP recognised = limit := by
  obtain ⟨counted, _⟩ := throughLimit_spec enough
  unfold linesBeforeCut
  rw [List.countP_append, counted, Nat.add_eq_left, List.countP_eq_zero]
  intro line member
  have kept := List.mem_takeWhile_imp (( beforeLast_prefix _).subset member)
  simpa using kept

theorem linesBeforeCut_map {Row : Type} (render : Row → Line) (limit : Nat) (rows : List Row) :
    linesBeforeCut recognised isSeparator limit (rows.map render) =
      (linesBeforeCut (fun row => recognised (render row)) (fun row => isSeparator (render row)) limit rows).map render := by
  have through : throughLimit recognised limit (rows.map render) =
      ((throughLimit (fun row => recognised (render row)) limit rows).1.map render,
        (throughLimit (fun row => recognised (render row)) limit rows).2.map render) := by
    induction rows generalizing limit with
    | nil => cases limit <;> rfl
    | cons row rest ih =>
      cases limit with
      | zero => rfl
      | succ limit =>
        rw [List.map_cons]
        by_cases isRecognised : recognised (render row) = true
        · rw [throughLimit_recognised isRecognised, ih,
            @throughLimit_recognised Row (fun row => recognised (render row)) row isRecognised]
          rfl
        · rw [throughLimit_other isRecognised, ih,
            @throughLimit_other Row (fun row => recognised (render row)) row isRecognised]
          rfl
  have before : ∀ rows : List Row, beforeLast isSeparator (rows.map render) =
      (beforeLast (fun row => isSeparator (render row)) rows).map render := by
    intro rows
    induction rows with
    | nil => rfl
    | cons row rest ih =>
      simp only [List.map_cons, beforeLast, List.any_map, Function.comp_def, ih]
      split
      · rfl
      · split <;> rfl
  unfold linesBeforeCut
  rw [through, List.map_append]
  simp only [List.takeWhile_map, before]
  rfl

end Cuts

/-! ## The loop -/

section Scans

variable {lines front back : List JsString} {limit : Nat}

theorem scanLines_succ (lines : List JsString) (limit count : Nat) :
    scanLines lines limit (count + 1) = scanLine lines limit (scanLines lines limit count) count := by
  unfold scanLines
  rw [List.range_succ, List.foldl_append]
  rfl

theorem scanLine_other {line : JsString} (isLines : lines = front ++ line :: back) (isOther : ¬ isGrepMatchLine line = true)
    (scan : GrepScan) : scanLine lines limit scan front.length = scan := by
  simp [scanLine, isLines, isOther]

variable {scan : GrepScan}

theorem scanLine_retained {line : JsString} (isLines : lines = front ++ line :: back)
    (isRecognised : isGrepMatchLine line = true) (within : scan.totalMatches + 1 ≤ limit) :
    scanLine lines limit scan front.length =
      { scan with totalMatches := scan.totalMatches + 1, lastRetainedMatchIndex := front.length } := by
  simp [scanLine, isLines, isRecognised, within]

theorem scanLines_within (isLines : lines = front ++ back) (within : front.countP isGrepMatchLine ≤ limit) :
    ∃ retained, scanLines lines limit front.length = ⟨front.countP isGrepMatchLine, retained, -1⟩ := by
  induction front using List.reverseRecOn generalizing back with
  | nil => exact ⟨-1, rfl⟩
  | append_singleton front line ih =>
    have isSplit : lines = front ++ line :: back := by simpa using isLines
    rw [List.countP_append] at within
    obtain ⟨retained, isScan⟩ := ih isSplit (by omega)
    rw [List.length_append, List.length_singleton, scanLines_succ, isScan]
    by_cases isRecognised : isGrepMatchLine line = true
    · have counted : [line].countP isGrepMatchLine = 1 := by simp [isRecognised]
      rw [scanLine_retained isSplit isRecognised (by simp only; omega), List.countP_append, counted]
      exact ⟨_, rfl⟩
    · have counted : [line].countP isGrepMatchLine = 0 := by simp [isRecognised]
      rw [scanLine_other isSplit isRecognised, List.countP_append, counted]
      exact ⟨_, rfl⟩

variable {between : List JsString}

theorem scanLines_skip (isLines : lines = front ++ between ++ back)
    (others : ∀ line ∈ between, ¬ isGrepMatchLine line = true) :
    scanLines lines limit (front ++ between).length = scanLines lines limit front.length := by
  induction between using List.reverseRecOn generalizing back with
  | nil => rw [List.append_nil]
  | append_singleton between line ih =>
    have isSplit : lines = front ++ between ++ line :: back := by simpa using isLines
    have earlier := ih isSplit fun other member => others other (List.mem_append_left _ member)
    rw [← List.append_assoc, List.length_append, List.length_singleton, scanLines_succ,
      scanLine_other isSplit (others line (by simp)), earlier]

theorem scanLines_beyond {later : List JsString} (isLines : lines = front ++ later ++ back)
    (isScan : scanLines lines limit front.length = scan) (beyond : limit < scan.totalMatches) (isCut : scan.cutIndex ≠ -1) :
    scanLines lines limit (front ++ later).length =
      { scan with totalMatches := scan.totalMatches + later.countP isGrepMatchLine } := by
  induction later using List.reverseRecOn generalizing back with
  | nil => simpa using isScan
  | append_singleton later line ih =>
    have isSplit : lines = front ++ later ++ line :: back := by simpa using isLines
    have earlier := ih isSplit
    rw [← List.append_assoc, List.length_append, List.length_singleton, scanLines_succ, earlier]
    by_cases isRecognised : isGrepMatchLine line = true
    · have isLine : (front ++ later ++ line :: back).getD (front ++ later).length [] = line := by simp
      unfold scanLine
      rw [isSplit, isLine, if_pos isRecognised]
      simp only
      rw [if_neg (by omega), if_neg isCut, List.countP_append]
      simp [isRecognised, Nat.add_assoc]
    · rw [scanLine_other isSplit isRecognised, List.countP_append]
      simp [isRecognised]

theorem lastIndexBefore_lt (lines : List JsString) (text : JsString) (count : Nat) : lastIndexBefore lines text count < count := by
  induction count with
  | zero => simp [lastIndexBefore]
  | succ count ih =>
    unfold lastIndexBefore
    split <;> omega

theorem lastIndexBefore_between {text : JsString} (isLines : lines = front ++ between ++ back) :
    lastIndexBefore lines text (front ++ between).length =
      if between.any (· == text) then ((front ++ beforeLast (· == text) between).length : Int)
      else lastIndexBefore lines text front.length := by
  induction between using List.reverseRecOn generalizing back with
  | nil => simp
  | append_singleton between line ih =>
    have isSplit : lines = front ++ between ++ line :: back := by simpa using isLines
    have isLine : lines[(front ++ between).length]? = some line := by
      rw [isSplit]
      simp
    have earlier := ih isSplit
    rw [← List.append_assoc, List.length_append, List.length_singleton, lastIndexBefore, isLine, earlier, beforeLast_snoc]
    by_cases isText : line = text
    · simp [isText]
    · by_cases isLater : between.any (· == text) = true
      · simp [isText, isLater]
      · simp [isText, isLater]

/-- Beyond the limit the output is cut before the group of the line that is too many. -/
theorem scanLine_cut {next : JsString} (isLines : lines = front ++ between ++ next :: back)
    (isRecognised : isGrepMatchLine next = true) (present : 0 < front.length)
    (reached : scan.totalMatches = limit) (retained : scan.lastRetainedMatchIndex = (front.length - 1 : Nat))
    (uncut : scan.cutIndex = -1) :
    scanLine lines limit scan (front ++ between).length =
      { scan with
        totalMatches := limit + 1
        cutIndex := ((front ++ beforeLast (· == groupSeparator) between).length : Nat) } := by
  have isNext : lines.getD (front ++ between).length [] = next := by
    rw [isLines]
    simp
  have within : (front ++ between).length ≤ lines.length := by
    rw [isLines]
    simp
  have isLast : lastIndexOf lines groupSeparator ((front ++ between).length - 1 : Int) =
      lastIndexBefore lines groupSeparator (front ++ between).length := by
    unfold lastIndexOf
    rw [List.length_append] at within ⊢
    have isCount : (min (((front.length + between.length : Nat) : Int) - 1) (lines.length - 1) + 1).toNat =
        front.length + between.length := by omega
    have inRange : (0 : Int) ≤ ((front.length + between.length : Nat) : Int) - 1 := by omega
    simp only [inRange, if_true, isCount]
  unfold scanLine
  rw [isNext, if_pos isRecognised]
  simp only
  rw [if_neg (by omega), if_pos uncut, isLast, lastIndexBefore_between isLines, reached, retained]
  by_cases isSeparated : between.any (· == groupSeparator) = true
  · -- the group of the next line starts after the limit was reached
    simp only [isSeparated, if_true]
    rw [if_pos (by simp only [List.length_append]; omega)]
  · -- the next line is in the group of the last one retained
    have before := lastIndexBefore_lt lines groupSeparator front.length
    have whole : beforeLast (· == groupSeparator) between = between := by
      cases between with
      | nil => rfl
      | cons line rest =>
        simp only [List.any_cons, Bool.or_eq_true, not_or] at isSeparated
        rw [beforeLast, if_neg isSeparated.2, if_neg isSeparated.1]
    simp only [isSeparated, Bool.false_eq_true, if_false, whole]
    rw [if_neg (by omega)]

/-- The output is whole within the limit; beyond it, it is cut and says how much is omitted. -/
theorem truncateGrepOutput_eq (lines : List JsString) (positive : 0 < limit) :
    truncateGrepOutput lines limit =
      if lines.countP isGrepMatchLine ≤ limit then joinLines lines
      else
        joinLines (linesBeforeCut isGrepMatchLine (· == groupSeparator) limit lines) ++ [lineFeed] ++
          omissionNote (lines.countP isGrepMatchLine - limit) limit := by
  unfold truncateGrepOutput
  by_cases within : lines.countP isGrepMatchLine ≤ limit
  · obtain ⟨retained, isScan⟩ := scanLines_within (List.append_nil lines).symm within
    simp [isScan, within]
  · have enough : limit < lines.countP isGrepMatchLine := not_le.mp within
    let reached := (throughLimit isGrepMatchLine limit lines).1
    let between := (throughLimit isGrepMatchLine limit lines).2.takeWhile fun line => !isGrepMatchLine line
    obtain ⟨counted, ends⟩ := throughLimit_spec enough
    obtain ⟨early, last, isReached, recognisedLast⟩ := ends positive
    obtain ⟨next, rest, isRest, recognisedNext⟩ := throughLimit_next enough
    have whole : lines = reached ++ between ++ next :: rest := by
      rw [List.append_assoc, ← isRest]
      exact (throughLimit_append limit lines).symm
    have others : ∀ line ∈ between, ¬ isGrepMatchLine line = true := by
      intro line member
      simpa using List.mem_takeWhile_imp member
    -- the scan through the last line retained
    have isLast : lines = early ++ last :: (between ++ next :: rest) := by
      rw [whole, show reached = early ++ [last] from isReached]
      simp
    have fewer : early.countP isGrepMatchLine + 1 = limit := by
      rw [← counted, isReached]
      simp [recognisedLast]
    obtain ⟨retained, isEarly⟩ := scanLines_within isLast (by omega : early.countP isGrepMatchLine ≤ limit)
    have isScan : scanLines lines limit reached.length = ⟨limit, early.length, -1⟩ := by
      rw [show reached = early ++ [last] from isReached, List.length_append, List.length_singleton, scanLines_succ, isEarly,
        scanLine_retained isLast recognisedLast (by simp only; omega)]
      simp [fewer]
    have isBetween : scanLines lines limit (reached ++ between).length = scanLines lines limit reached.length :=
      scanLines_skip whole others
    rw [isScan] at isBetween
    have atEnd : reached.length = early.length + 1 := by
      rw [show reached = early ++ [last] from isReached]
      simp
    have isCut : scanLine lines limit ⟨limit, early.length, -1⟩ (reached ++ between).length =
        ⟨limit + 1, early.length, ((reached ++ beforeLast (· == groupSeparator) between).length : Nat)⟩ :=
      scanLine_cut whole recognisedNext (by omega) rfl (by simp only; omega) rfl
    have isNext : scanLines lines limit (reached ++ between ++ [next]).length =
        ⟨limit + 1, early.length, ((reached ++ beforeLast (· == groupSeparator) between).length : Nat)⟩ := by
      rw [List.length_append, List.length_singleton, scanLines_succ, isBetween, isCut]
    have isTail : lines = (reached ++ between ++ [next]) ++ rest ++ [] := by
      rw [whole]
      simp
    have isWhole := scanLines_beyond isTail isNext (by simp only; omega) (by simp only; omega)
    have allLines : (reached ++ between ++ [next] ++ rest).length = lines.length := by
      rw [isTail, List.append_nil]
    have total : limit + 1 + rest.countP isGrepMatchLine = lines.countP isGrepMatchLine := by
      have none : between.countP isGrepMatchLine = 0 := List.countP_eq_zero.mpr others
      have isCounted : reached.countP isGrepMatchLine = limit := counted
      rw [whole, List.countP_append, List.countP_append, none, isCounted, List.countP_cons_of_pos recognisedNext]
      omega
    rw [allLines] at isWhole
    simp only [isWhole, total, within, if_false]
    have isPrefix : lines.take (reached ++ beforeLast (· == groupSeparator) between).length =
        linesBeforeCut isGrepMatchLine (· == groupSeparator) limit lines := by
      have before : linesBeforeCut isGrepMatchLine (· == groupSeparator) limit lines <+: lines := linesBeforeCut_prefix limit lines
      exact (List.prefix_iff_eq_take.mp before).symm
    rw [if_neg (by omega), Int.toNat_natCast, isPrefix]

end Scans

/-! ## The output of `rg` -/

/-- The path of a file: on one line, and without a colon. -/
structure GrepPath where
  text : JsString
  present : text ≠ []
  noColon : colon ∉ text
  noFeed : lineFeed ∉ text

/-- A line of a file. -/
structure GrepText where
  text : JsString
  noFeed : lineFeed ∉ text

/-- A line that `rg --line-number --with-filename` prints. -/
inductive GrepLine where
  | hit (path : GrepPath) (number : Nat) (text : GrepText)
  | context (path : GrepPath) (number : Nat) (text : GrepText)
  | separator

namespace GrepLine

def render : GrepLine → JsString
  | .hit path number text => path.text ++ colon :: (numberText number ++ colon :: text.text)
  | .context path number text => path.text ++ 0x2D :: (numberText number ++ 0x2D :: text.text)
  | .separator => groupSeparator

def isHit : GrepLine → Bool
  | .hit .. => true
  | _ => false

/-- Whether the pattern takes a line for a match. -/
def isRecognised (line : GrepLine) : Bool := isGrepMatchLine line.render

def isSeparator (line : GrepLine) : Bool := line.render == groupSeparator

/-- A path that `.` matches throughout. -/
def HasPlainPath : GrepLine → Prop
  | .hit path _ _ => ∀ unit ∈ path.text, isLineTerminator unit = false
  | .context path _ _ => ∀ unit ∈ path.text, isLineTerminator unit = false
  | .separator => True

theorem render_ne_nil (line : GrepLine) : line.render ≠ [] := by
  cases line with
  | hit path number text => simp [render]
  | context path number text => simp [render]
  | separator => decide +kernel

theorem lineFeed_not_mem_render (line : GrepLine) : lineFeed ∉ line.render := by
  have isColon : lineFeed ≠ colon := by decide
  have isHyphen : lineFeed ≠ 0x2D := by decide
  cases line with
  | hit path number text => simp [render, path.noFeed, text.noFeed, isColon, lineFeed_not_mem_numberText]
  | context path number text => simp [render, path.noFeed, text.noFeed, isHyphen, lineFeed_not_mem_numberText]
  | separator => decide +kernel

/-- What stands before the numbers may be anything on one line. -/
theorem isGrepMatchLine_append {head rest : JsString} (present : head ≠ []) (plain : ∀ unit ∈ head, isLineTerminator unit = false)
    (numbered : startsNumbered rest = true) : isGrepMatchLine (head ++ rest) = true := by
  induction head with
  | nil => exact absurd rfl present
  | cons unit others ih =>
    have isPlain := plain unit List.mem_cons_self
    rw [List.cons_append, isGrepMatchLine, isPlain]
    cases others with
    | nil => simp [numbered]
    | cons next others =>
      have later := ih (List.cons_ne_nil next others) fun other member =>
        plain other (List.mem_cons_of_mem _ member)
      rw [later]
      simp

theorem isRecognised_of_isHit {line : GrepLine} (plain : line.HasPlainPath) (isHit : line.isHit = true) :
    line.isRecognised = true := by
  cases line with
  | hit path number text =>
    have numbered : startsNumbered (colon :: (numberText number ++ colon :: text.text)) = true := by
      have isNumber : isNumbered (numberText number ++ colon :: text.text) = true := isNumbered_numberText number text.text
      simp [startsNumbered, isNumber]
    exact isGrepMatchLine_append path.present plain numbered
  | context => cases isHit
  | separator => cases isHit

/-- No line of an output is the note at its end: that has neither a colon nor a hyphen. -/
theorem render_ne_omissionNote (line : GrepLine) (omitted limit : Nat) : line.render ≠ omissionNote omitted limit := by
  have digitsOnly : ∀ (number : Nat) (unit : CodeUnit), isDigit unit = false → unit ∉ numberText number := by
    intro number unit other member
    rw [isDigit_of_mem_numberText member] at other
    cases other
  have noColon : colon ∉ omissionNote omitted limit := by
    have texts : colon ∉ utf16 "... " ∧ colon ∉ utf16 " more matches beyond limit=" ∧
        colon ∉ utf16 "; narrow the pattern, glob, or path." := by decide +kernel
    simp [omissionNote, texts, digitsOnly _ colon (by decide)]
  have noHyphen : 0x2D ∉ omissionNote omitted limit := by
    have texts : 0x2D ∉ utf16 "... " ∧ 0x2D ∉ utf16 " more matches beyond limit=" ∧
        0x2D ∉ utf16 "; narrow the pattern, glob, or path." := by decide +kernel
    simp [omissionNote, texts, digitsOnly _ 0x2D (by decide)]
  intro same
  cases line with
  | hit path number text =>
    apply noColon
    rw [← same]
    simp [render]
  | context path number text =>
    apply noHyphen
    rw [← same]
    simp [render]
  | separator =>
    apply noHyphen
    rw [← same]
    decide +kernel

end GrepLine

/-! ## Reading a result back -/

theorem lineFeed_not_mem_omissionNote (omitted limit : Nat) : lineFeed ∉ omissionNote omitted limit := by
  have texts : lineFeed ∉ utf16 "... " ∧ lineFeed ∉ utf16 " more matches beyond limit=" ∧
      lineFeed ∉ utf16 "; narrow the pattern, glob, or path." := by decide +kernel
  simp [omissionNote, texts, lineFeed_not_mem_numberText]

theorem omissionNote_inj {omitted other : Nat} (same : omissionNote omitted limit = omissionNote other limit) :
    omitted = other := by
  unfold omissionNote numberText at same
  simp only [List.append_assoc, List.append_cancel_left_eq] at same
  have texts := utf16_inj.mp (List.append_cancel_right same)
  exact toString_nat_injective texts

theorem splitLines_joined {lines : List JsString} (noFeed : ∀ line ∈ lines, lineFeed ∉ line) :
    splitLines (joinLines lines) = if lines = [] then [[]] else lines := by
  split
  next isEmpty =>
    rw [isEmpty]
    rfl
  next present => exact List.splitOn_intercalate lineFeed noFeed present

theorem splitLines_noted {lines : List JsString} (noFeed : ∀ line ∈ lines, lineFeed ∉ line) {note : JsString}
    (noFeedInNote : lineFeed ∉ note) :
    splitLines (joinLines lines ++ [lineFeed] ++ note) = (if lines = [] then [[]] else lines) ++ [note] := by
  have isJoined : joinLines lines ++ [lineFeed] ++ note = joinLines ((if lines = [] then [[]] else lines) ++ [note]) := by
    split
    next isEmpty =>
      rw [isEmpty]
      simp [joinLines, List.intercalate_cons_cons]
    next present => rw [joinLines_concat present, List.append_assoc, List.singleton_append]
  rw [isJoined, splitLines_joined]
  · simp
  · intro line member
    rcases List.mem_append.mp member with isLine | isNote
    · split at isLine
      · rw [List.mem_singleton.mp isLine]
        exact List.not_mem_nil
      · exact noFeed line isLine
    · rw [List.mem_singleton.mp isNote]
      exact noFeedInNote

section Outputs

variable {output kept others : List GrepLine} {limit omitted other : Nat}

theorem lineFeed_not_mem_rendered (lines : List GrepLine) : ∀ line ∈ lines.map GrepLine.render, lineFeed ∉ line := by
  intro line member
  obtain ⟨printed, _, rfl⟩ := List.mem_map.mp member
  exact printed.lineFeed_not_mem_render

theorem joined_ne_noted :
    joinLines (output.map GrepLine.render) ≠
      joinLines (kept.map GrepLine.render) ++ [lineFeed] ++ omissionNote omitted limit := by
  intro same
  have lines := congrArg splitLines same
  rw [splitLines_joined (lineFeed_not_mem_rendered _),
    splitLines_noted (lineFeed_not_mem_rendered _) (lineFeed_not_mem_omissionNote _ _)] at lines
  have isLast : omissionNote omitted limit ∈ (if output.map GrepLine.render = [] then [[]] else output.map GrepLine.render) := by
    rw [lines]
    simp
  split at isLast
  · have literal : utf16 "... " ≠ [] := by decide +kernel
    exact absurd (List.mem_singleton.mp isLast) (by simp [omissionNote, literal])
  · obtain ⟨line, _, isNote⟩ := List.mem_map.mp isLast
    exact line.render_ne_omissionNote _ _ isNote

theorem noted_inj (keeps : kept <+: output) (keepsOthers : others <+: output)
    (same : joinLines (kept.map GrepLine.render) ++ [lineFeed] ++ omissionNote omitted limit =
      joinLines (others.map GrepLine.render) ++ [lineFeed] ++ omissionNote other limit) :
    kept = others ∧ omitted = other := by
  have lines := congrArg splitLines same
  rw [splitLines_noted (lineFeed_not_mem_rendered _) (lineFeed_not_mem_omissionNote _ _),
    splitLines_noted (lineFeed_not_mem_rendered _) (lineFeed_not_mem_omissionNote _ _)] at lines
  obtain ⟨sameLines, sameNote⟩ := List.append_inj' lines rfl
  refine ⟨?_, omissionNote_inj (List.singleton_inj.mp sameNote)⟩
  have blank : ∀ lines : List GrepLine, lines.map GrepLine.render ≠ [[]] := by
    intro lines isBlank
    have member : [] ∈ lines.map GrepLine.render := by simp [isBlank]
    obtain ⟨line, _, isEmpty⟩ := List.mem_map.mp member
    exact line.render_ne_nil isEmpty
  have sameRendered : kept.map GrepLine.render = others.map GrepLine.render := by
    split at sameLines
    next isEmpty =>
      split at sameLines
      next isOtherEmpty => rw [isEmpty, isOtherEmpty]
      · exact absurd sameLines.symm (blank others)
    · split at sameLines
      · exact absurd sameLines (blank kept)
      · exact sameLines
  have sameLength : kept.length = others.length := by simpa using congrArg List.length sameRendered
  rw [List.prefix_iff_eq_take.mp keeps, List.prefix_iff_eq_take.mp keepsOthers, sameLength]

end Outputs

/-! ## The limit counts matches -/

abbrev PositiveInteger := { number : Nat // 0 < number }

/-- The limit keeps the first matches and no later one, and says how many it omits; an output within it is unchanged. -/
def LimitsHits (output : List GrepLine) (limit : PositiveInteger) : Prop :=
  let hits := output.filter GrepLine.isHit
  let text := truncateGrepOutput (output.map GrepLine.render) limit
  if hits.length ≤ limit.val then text = joinLines (output.map GrepLine.render)
  else
    ∃ kept, kept <+: output ∧ kept.filter GrepLine.isHit = hits.take limit ∧
      text = joinLines (kept.map GrepLine.render) ++ [lineFeed] ++ omissionNote (hits.length - limit) limit

/-- As many lines are taken for matches as there are matches, where the output is cut and in all of it; or neither are
more than the limit. -/
def CountsHits (output : List GrepLine) (limit : PositiveInteger) : Prop :=
  let recognised := output.countP GrepLine.isRecognised
  let hits := output.countP GrepLine.isHit
  (recognised ≤ limit ∧ hits ≤ limit) ∨
    (limit < recognised ∧ hits = recognised ∧
      (linesBeforeCut GrepLine.isRecognised GrepLine.isSeparator limit output).countP GrepLine.isHit = limit)

instance (output : List GrepLine) (limit : PositiveInteger) : Decidable (CountsHits output limit) :=
  inferInstanceAs (Decidable ((_ ∧ _) ∨ (_ ∧ _ ∧ _)))

/-- What the code returns, in the lines that `rg` printed. -/
theorem truncateGrepOutput_render (output : List GrepLine) (limit : PositiveInteger) :
    truncateGrepOutput (output.map GrepLine.render) limit =
      if output.countP GrepLine.isRecognised ≤ limit then joinLines (output.map GrepLine.render)
      else
        joinLines ((linesBeforeCut GrepLine.isRecognised GrepLine.isSeparator limit output).map GrepLine.render) ++ [lineFeed] ++
          omissionNote (output.countP GrepLine.isRecognised - limit) limit := by
  rw [truncateGrepOutput_eq _ limit.property, List.countP_map, linesBeforeCut_map]
  rfl

theorem limitsHits_iff (output : List GrepLine) (limit : PositiveInteger) : LimitsHits output limit ↔ CountsHits output limit := by
  let cut := linesBeforeCut GrepLine.isRecognised GrepLine.isSeparator limit output
  have isPrefix : cut <+: output := linesBeforeCut_prefix limit.val output
  have isText := truncateGrepOutput_render output limit
  unfold LimitsHits CountsHits
  simp only [← List.countP_eq_length_filter]
  by_cases recognised : output.countP GrepLine.isRecognised ≤ limit
  · -- nothing is cut
    have notBeyond : ¬ limit.val < output.countP GrepLine.isRecognised := not_lt.mpr recognised
    rw [isText, if_pos recognised]
    by_cases hits : output.countP GrepLine.isHit ≤ limit
    · simp [recognised, hits]
    · simp only [hits, if_false, and_false, notBeyond, false_and, or_false, iff_false]
      rintro ⟨kept, _, _, same⟩
      exact joined_ne_noted same
  · -- the output is cut before the line that is too many
    have beyond : limit.val < output.countP GrepLine.isRecognised := not_le.mp recognised
    rw [isText, if_neg recognised]
    by_cases hits : output.countP GrepLine.isHit ≤ limit
    · simp only [hits, if_true, recognised, false_and, false_or]
      constructor
      · intro same
        exact absurd same.symm joined_ne_noted
      · rintro ⟨_, same, _⟩
        omega
    · simp only [hits, if_false, recognised, and_false, false_or, beyond, true_and]
      constructor
      · rintro ⟨kept, isKept, kepts, same⟩
        obtain ⟨isCut, omitted⟩ := noted_inj isPrefix isKept same
        have counted := congrArg List.length kepts
        rw [← List.countP_eq_length_filter, List.length_take, ← List.countP_eq_length_filter, ← isCut] at counted
        refine ⟨by omega, ?_⟩
        have isCounted : cut.countP GrepLine.isHit = min limit.val (output.countP GrepLine.isHit) := counted
        rw [isCounted]
        omega
      · rintro ⟨same, counted⟩
        refine ⟨cut, isPrefix, ?_, by rw [same]⟩
        have hitsPrefix : cut.filter GrepLine.isHit <+: output.filter GrepLine.isHit := isPrefix.filter _
        rw [List.prefix_iff_eq_take.mp hitsPrefix, ← List.countP_eq_length_filter]
        have isCounted : cut.countP GrepLine.isHit = limit := counted
        rw [isCounted]

/-- Where every path is plain, what goes wrong is a context line that looks like a match. -/
theorem countsHits_iff_of_plain {output : List GrepLine} (plain : ∀ line ∈ output, line.HasPlainPath)
    (limit : PositiveInteger) :
    CountsHits output limit ↔ output.countP GrepLine.isRecognised ≤ limit ∨
      ∀ line ∈ output, line.isRecognised = true → line.isHit = true := by
  have fewer : ∀ lines : List GrepLine, lines ⊆ output →
      lines.countP GrepLine.isHit ≤ lines.countP GrepLine.isRecognised := by
    intro lines within
    apply List.countP_mono_left
    intro line member isHit
    exact GrepLine.isRecognised_of_isHit (plain line (within member)) isHit
  have allFewer := fewer output (List.Subset.refl _)
  unfold CountsHits
  constructor
  · rintro (⟨within, _⟩ | ⟨_, same, _⟩)
    · exact .inl within
    · right
      -- with as many hits as recognised lines, none is recognised without being a hit
      intro line member isRecognised
      by_contra notHit
      obtain ⟨early, late, isOutput⟩ := List.append_of_mem member
      have earlyFewer := fewer early fun other isOther => by rw [isOutput]; exact List.mem_append_left _ isOther
      have lateFewer := fewer late fun other isOther => by rw [isOutput]; simp [isOther]
      rw [isOutput, List.countP_append, List.countP_append, List.countP_cons_of_pos isRecognised,
        List.countP_cons_of_neg notHit] at same
      omega
  · intro counts
    by_cases within : output.countP GrepLine.isRecognised ≤ limit
    · exact .inl ⟨within, le_trans allFewer within⟩
    · right
      have only := counts.resolve_left within
      have sameOn : ∀ lines : List GrepLine, lines ⊆ output →
          lines.countP GrepLine.isHit = lines.countP GrepLine.isRecognised := by
        intro lines isWithin
        apply List.countP_congr
        intro line member
        exact ⟨GrepLine.isRecognised_of_isHit (plain line (isWithin member)), only line (isWithin member)⟩
      refine ⟨not_le.mp within, sameOn output (List.Subset.refl _), ?_⟩
      rw [sameOn _ ( linesBeforeCut_prefix limit.val output).subset]
      exact countP_linesBeforeCut (not_le.mp within)

/-- The limit counts matches exactly where the pattern does; with plain paths, unless more lines than the limit are taken
for matches and a context line is one of them. -/
theorem grep_limit_counts_matches (output : List GrepLine) (limit : PositiveInteger) :
    (LimitsHits output limit ↔ CountsHits output limit) ∧
      ((∀ line ∈ output, line.HasPlainPath) →
        (LimitsHits output limit ↔ output.countP GrepLine.isRecognised ≤ limit ∨
          ∀ line ∈ output, line.isRecognised = true → line.isHit = true)) := by
  refine ⟨limitsHits_iff output limit, ?_⟩
  intro plain
  exact (limitsHits_iff output limit).trans (countsHits_iff_of_plain plain limit)

/-- `a.ts`, of which the first line matches and the second mentions another place. -/
def mentionedPlace : List GrepLine :=
  let path : GrepPath := ⟨utf16 "a.ts", by decide +kernel, by decide +kernel, by decide +kernel⟩
  [.hit path 1 ⟨utf16 "needle", by decide +kernel⟩, .context path 2 ⟨utf16 "see b.ts:3:", by decide +kernel⟩]

/-- The one match is within the limit, but the output is cut after it. -/
theorem mentioned_place_counts : ¬ LimitsHits mentionedPlace ⟨1, by decide⟩ := by
  rw [limitsHits_iff]
  decide +kernel

end SiftKit.RepoSearch
