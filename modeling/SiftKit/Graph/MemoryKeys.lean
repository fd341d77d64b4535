import SiftKit.Foundation.Separators
import SiftKit.Graph.Keys
import SiftKit.Json.WellFormedText

/-! # Digests of memory keys

`buildAssertionKey` and `buildCandidateFingerprint` of `assistant/domain/keys.ts`, as the texts that are digested: five
parts joined by a separator that an id and a predicate do not have.  A normalized literal and a display name may have
it.
-/

namespace SiftKit.MemoryKeys

open SiftKit.Json
open SiftKit.Graph (TextPlatform ErrorMessage ObjectValueType NodeType RelationType RELATION_TYPES relationType?
  AssertionObject ObjectKey assertionObjectKey normalizeAliasText normalizeLiteralValue)
open SiftKit.Separators

/-! ## Texts -/

def KEY_SEPARATOR : CodeUnit := 0x1F

def colon : CodeUnit := 0x3A

def valueTypeName : ObjectValueType → JsString
  | .string => utf16 "string"
  | .integer => utf16 "integer"
  | .number => utf16 "number"
  | .boolean => utf16 "boolean"
  | .date => utf16 "date"
  | .datetime => utf16 "datetime"
  | .duration => utf16 "duration"
  | .quantity => utf16 "quantity"
  | .json => utf16 "json"

def predicateName (predicate : RelationType) : String :=
  ((RELATION_TYPES.find? fun entry => entry.2 == predicate).map Prod.fst).getD ""

/-- An id holds no separator. -/
abbrev Id := { text : String // KEY_SEPARATOR ∉ utf16 text }

section

variable {Digest : Type} (platform : TextPlatform) (sha256 : List UInt8 → Digest)

def sha256Hex (value : JsString) : Digest := sha256 (encodeUtf8 value)

/-- `parts.join(KEY_SEPARATOR)`. -/
def joined (parts : List JsString) : JsString := [KEY_SEPARATOR].intercalate parts

structure AssertionKeyInput where
  ownerId : Id
  subjectNodeId : Id
  predicate : RelationType
  object : AssertionObject
  scopeNodeId : Option Id

def literalText (valueType : ObjectValueType) (text : JsString) : JsString :=
  utf16 "literal:" ++ (valueTypeName valueType ++ colon :: text)

/-- The text of an `assertionObjectKey`. -/
def objectKeyText : ObjectKey → JsString
  | .node nodeId => utf16 "node:" ++ utf16 nodeId
  | .literal valueType text => literalText valueType text

def scopeIdText (scopeNodeId : Option Id) : JsString := scopeNodeId.elim [] fun scope => utf16 scope.val

def buildAssertionKey (input : AssertionKeyInput) : Except ErrorMessage Digest :=
  (assertionObjectKey platform input.object).map fun objectKey =>
    sha256Hex sha256 (joined
      [utf16 input.ownerId.val, utf16 input.subjectNodeId.val, utf16 (predicateName input.predicate),
        objectKeyText objectKey, scopeIdText input.scopeNodeId])

/-- `UnresolvedNodeRef`, with a display name of at least one unit. -/
structure UnresolvedNodeRef where
  nodeType : NodeType
  displayName : JsString
  present : displayName ≠ []

inductive CandidateObjectRef where
  | unresolved (ref : UnresolvedNodeRef)
  | literal (valueType : ObjectValueType) (value : JsValue)

structure CandidateFingerprintInput where
  ownerId : Id
  subject : UnresolvedNodeRef
  predicate : RelationType
  object : CandidateObjectRef
  scope : Option UnresolvedNodeRef

def unresolvedKey (ref : UnresolvedNodeRef) : JsString :=
  utf16 ref.nodeType.name ++ colon :: normalizeAliasText platform ref.displayName

/-- The object part of a fingerprint. -/
def candidateObjectKey : CandidateObjectRef → Except ErrorMessage JsString
  | .unresolved ref => .ok (utf16 "node:" ++ unresolvedKey platform ref)
  | .literal valueType value =>
    (normalizeLiteralValue platform valueType value).map (literalText valueType)

def scopeKey (scope : Option UnresolvedNodeRef) : JsString := scope.elim [] (unresolvedKey platform)

def buildCandidateFingerprint (input : CandidateFingerprintInput) : Except ErrorMessage Digest :=
  (candidateObjectKey platform input.object).map fun objectKey =>
    sha256Hex sha256 (joined
      [utf16 input.ownerId.val, unresolvedKey platform input.subject, utf16 (predicateName input.predicate), objectKey,
        scopeKey platform input.scope])

end

/-! ## Names -/

theorem valueTypeName_inj {first second : ObjectValueType} :
    valueTypeName first = valueTypeName second ↔ first = second := by
  constructor
  · cases first <;> cases second <;> decide
  · rintro rfl
    rfl

theorem colon_not_mem_valueTypeName (valueType : ObjectValueType) : colon ∉ valueTypeName valueType := by
  cases valueType <;> decide

def isUpperCase (unit : CodeUnit) : Bool := 0x41 ≤ unit.toNat && unit.toNat ≤ 0x5A

theorem nodeTypeName_plain (nodeType : NodeType) :
    ∀ unit ∈ utf16 nodeType.name, isUpperCase unit = false ∧ unit ≠ colon ∧ unit ≠ KEY_SEPARATOR := by
  have plain : ((utf16 nodeType.name).all fun unit =>
      decide (isUpperCase unit = false ∧ unit ≠ colon ∧ unit ≠ KEY_SEPARATOR)) = true := by
    cases nodeType <;> decide
  simpa only [List.all_eq_true, decide_eq_true_eq] using plain

theorem nodeTypeName_inj {first second : NodeType} : utf16 first.name = utf16 second.name ↔ first = second := by
  have named : ∀ nodeType : NodeType, SiftKit.Graph.NODE_TYPES.find? (fun known => known.name == nodeType.name) =
      some nodeType := by
    intro nodeType
    cases nodeType <;> decide
  constructor
  · intro same
    have found := named first
    rw [utf16_inj.mp same, named second] at found
    exact (Option.some_inj.mp found).symm
  · rintro rfl
    rfl

theorem predicateName_marked (predicate : RelationType) :
    (∃ unit ∈ utf16 (predicateName predicate), isUpperCase unit = true) ∧
      KEY_SEPARATOR ∉ utf16 (predicateName predicate) := by
  cases predicate <;> decide

theorem predicateName_inj {first second : RelationType} :
    utf16 (predicateName first) = utf16 (predicateName second) ↔ first = second := by
  have named : ∀ predicate : RelationType, relationType? (predicateName predicate) = some predicate := by
    intro predicate
    cases predicate <;> decide
  constructor
  · intro same
    have found := named first
    rw [utf16_inj.mp same, named second] at found
    exact (Option.some_inj.mp found).symm
  · rintro rfl
    rfl

/-! ## Parts

A part has the same bytes as another when the two agree once their lone surrogates are replaced. -/

theorem literalText_inj {first second : ObjectValueType} {early late : JsString} :
    literalText first early = literalText second late ↔ first = second ∧ early = late := by
  rw [literalText, literalText, List.append_right_inj, first_inj (colon_not_mem_valueTypeName first)
    (colon_not_mem_valueTypeName second), valueTypeName_inj]

theorem node_ne_literal {rest text : JsString} {valueType : ObjectValueType} :
    utf16 "node:" ++ rest ≠ literalText valueType text := by
  intro same
  have heads : some (0x6E : CodeUnit) = some 0x6C := congrArg List.head? same
  exact absurd heads (by decide)

theorem toWellFormed_named (name : String) (text : JsString) :
    toWellFormed (utf16 name ++ colon :: text) = utf16 name ++ colon :: toWellFormed text := by
  rw [toWellFormed_append_cons (by decide), toWellFormed_utf16]

theorem toWellFormed_literalText (valueType : ObjectValueType) (text : JsString) :
    toWellFormed (literalText valueType text) = literalText valueType (toWellFormed text) := by
  have isName : ∃ name, valueTypeName valueType = utf16 name := by
    cases valueType <;> exact ⟨_, rfl⟩
  obtain ⟨name, named⟩ := isName
  have starts : utf16 "literal:" ++ utf16 name = utf16 ("literal:" ++ name) := by simp [utf16]
  rw [literalText, literalText, named, ← List.append_assoc, ← List.append_assoc, starts, toWellFormed_named]

/-- An object key with the lone surrogates of its text replaced. -/
def wellFormedKey : ObjectKey → ObjectKey
  | .node nodeId => .node nodeId
  | .literal valueType text => .literal valueType (toWellFormed text)

theorem objectKeyText_inj {first second : ObjectKey} : objectKeyText first = objectKeyText second ↔ first = second := by
  cases first with
  | node nodeId =>
    cases second with
    | node other => simp [objectKeyText]
    | literal valueType text => simp [objectKeyText, node_ne_literal]
  | literal valueType text =>
    cases second with
    | node other => simp [objectKeyText, node_ne_literal.symm]
    | literal otherType otherText => simp [objectKeyText, literalText_inj]

theorem toWellFormed_objectKeyText (objectKey : ObjectKey) :
    toWellFormed (objectKeyText objectKey) = objectKeyText (wellFormedKey objectKey) := by
  cases objectKey with
  | node nodeId =>
    have joinedName : utf16 "node:" ++ utf16 nodeId = utf16 ("node:" ++ nodeId) := by simp [utf16]
    rw [objectKeyText, wellFormedKey, objectKeyText, joinedName, toWellFormed_utf16]
  | literal valueType text => exact toWellFormed_literalText valueType text

theorem toWellFormed_joined (first second third fourth fifth : JsString) :
    toWellFormed (joined [first, second, third, fourth, fifth]) =
      toWellFormed first ++ KEY_SEPARATOR :: (toWellFormed second ++ KEY_SEPARATOR :: (toWellFormed third ++
        KEY_SEPARATOR :: (toWellFormed fourth ++ KEY_SEPARATOR :: toWellFormed fifth))) := by
  have plain : isSurrogate KEY_SEPARATOR = false := by decide
  simp only [joined, List.intercalate, List.intersperse, List.flatten_cons, List.flatten_nil, List.append_nil,
    List.singleton_append]
  rw [toWellFormed_append_cons plain, toWellFormed_append_cons plain, toWellFormed_append_cons plain,
    toWellFormed_append_cons plain]

/-! ## Assertion keys -/

section

variable {Digest : Type} (platform : TextPlatform) (sha256 : List UInt8 → Digest)

/-- The same fact: literal objects agree in their declared type and their normalized text. -/
def AssertionKeyInput.Agrees (first second : AssertionKeyInput) : Prop :=
  first.ownerId = second.ownerId ∧ first.subjectNodeId = second.subjectNodeId ∧ first.predicate = second.predicate ∧
    assertionObjectKey platform first.object = assertionObjectKey platform second.object ∧
    first.scopeNodeId = second.scopeNodeId

/-- The same fact as far as bytes go: lone surrogates are not told apart, nor is a scope of no letters from none. -/
def AssertionKeyInput.SameBytes (first second : AssertionKeyInput) : Prop :=
  first.ownerId = second.ownerId ∧ first.subjectNodeId = second.subjectNodeId ∧ first.predicate = second.predicate ∧
    (∃ firstKey secondKey, assertionObjectKey platform first.object = .ok firstKey ∧
      assertionObjectKey platform second.object = .ok secondKey ∧ wellFormedKey firstKey = wellFormedKey secondKey) ∧
    scopeIdText first.scopeNodeId = scopeIdText second.scopeNodeId

/-- Two inputs that have keys have the same key exactly when they are the same fact. -/
def AssertionKeysSeparate (first second : AssertionKeyInput) : Prop :=
  ∀ firstKey secondKey, buildAssertionKey platform sha256 first = .ok firstKey →
    buildAssertionKey platform sha256 second = .ok secondKey →
    (firstKey = secondKey ↔ first.Agrees platform second)

end

variable {Digest : Type} {platform : TextPlatform} {sha256 : List UInt8 → Digest}

theorem buildAssertionKey_eq_ok {input : AssertionKeyInput} {key : Digest} :
    buildAssertionKey platform sha256 input = .ok key ↔
      ∃ objectKey, assertionObjectKey platform input.object = .ok objectKey ∧
        sha256Hex sha256 (joined
          [utf16 input.ownerId.val, utf16 input.subjectNodeId.val, utf16 (predicateName input.predicate),
            objectKeyText objectKey, scopeIdText input.scopeNodeId]) = key := by
  cases built : assertionObjectKey platform input.object with
  | error message => simp [buildAssertionKey, built, Except.map]
  | ok objectKey => simp [buildAssertionKey, built, Except.map]

theorem scopeIdText_plain (scope : Option Id) :
    KEY_SEPARATOR ∉ scopeIdText scope ∧ toWellFormed (scopeIdText scope) = scopeIdText scope := by
  cases scope with
  | none => exact ⟨by simp [scopeIdText], rfl⟩
  | some id => exact ⟨id.property, toWellFormed_utf16 id.val⟩

/-- The object is between parts without the separator, so its own separators do no harm. -/
theorem assertion_texts_inj {first second : AssertionKeyInput} {firstKey secondKey : ObjectKey} :
    toWellFormed (joined
        [utf16 first.ownerId.val, utf16 first.subjectNodeId.val, utf16 (predicateName first.predicate),
          objectKeyText firstKey, scopeIdText first.scopeNodeId]) =
      toWellFormed (joined
        [utf16 second.ownerId.val, utf16 second.subjectNodeId.val, utf16 (predicateName second.predicate),
          objectKeyText secondKey, scopeIdText second.scopeNodeId]) ↔
      first.ownerId = second.ownerId ∧ first.subjectNodeId = second.subjectNodeId ∧
        first.predicate = second.predicate ∧ wellFormedKey firstKey = wellFormedKey secondKey ∧
        scopeIdText first.scopeNodeId = scopeIdText second.scopeNodeId := by
  obtain ⟨plainFirst, sameFirst⟩ := scopeIdText_plain first.scopeNodeId
  obtain ⟨plainSecond, sameSecond⟩ := scopeIdText_plain second.scopeNodeId
  rw [toWellFormed_joined, toWellFormed_joined, toWellFormed_objectKeyText, toWellFormed_objectKeyText, sameFirst,
    sameSecond]
  simp only [toWellFormed_utf16]
  rw [first_inj first.ownerId.property second.ownerId.property,
    first_inj first.subjectNodeId.property second.subjectNodeId.property,
    first_inj (predicateName_marked first.predicate).2 (predicateName_marked second.predicate).2,
    last_inj plainFirst plainSecond, utf16_inj, utf16_inj, predicateName_inj, objectKeyText_inj, Subtype.ext_iff,
    Subtype.ext_iff]

theorem assertion_keys_eq_iff (injective : Function.Injective sha256) {first second : AssertionKeyInput}
    {firstKey secondKey : Digest} (isFirst : buildAssertionKey platform sha256 first = .ok firstKey)
    (isSecond : buildAssertionKey platform sha256 second = .ok secondKey) :
    firstKey = secondKey ↔ first.SameBytes platform second := by
  obtain ⟨firstObject, builtFirst, rfl⟩ := buildAssertionKey_eq_ok.mp isFirst
  obtain ⟨secondObject, builtSecond, rfl⟩ := buildAssertionKey_eq_ok.mp isSecond
  rw [sha256Hex, sha256Hex, injective.eq_iff, encodeUtf8_inj, assertion_texts_inj]
  simp [AssertionKeyInput.SameBytes, builtFirst, builtSecond]

theorem AssertionKeyInput.Agrees.sameBytes {first second : AssertionKeyInput} (agrees : first.Agrees platform second)
    {objectKey : ObjectKey} (built : assertionObjectKey platform first.object = .ok objectKey) :
    first.SameBytes platform second := by
  obtain ⟨sameOwner, sameSubject, samePredicate, sameObject, sameScope⟩ := agrees
  exact ⟨sameOwner, sameSubject, samePredicate, ⟨objectKey, objectKey, built, sameObject ▸ built, rfl⟩,
    congrArg scopeIdText sameScope⟩

/-- Assertion keys tell apart what bytes tell apart. -/
theorem assertion_keys_separate_iff (injective : Function.Injective sha256) (first second : AssertionKeyInput) :
    AssertionKeysSeparate platform sha256 first second ↔
      (first.SameBytes platform second → first.Agrees platform second) := by
  constructor
  · intro separate sameBytes
    obtain ⟨_, _, _, ⟨firstObject, secondObject, builtFirst, builtSecond, _⟩, _⟩ := id sameBytes
    have isFirst := (@buildAssertionKey_eq_ok Digest platform sha256 first _).mpr ⟨firstObject, builtFirst, rfl⟩
    have isSecond := (@buildAssertionKey_eq_ok Digest platform sha256 second _).mpr ⟨secondObject, builtSecond, rfl⟩
    exact (separate _ _ isFirst isSecond).mp ((assertion_keys_eq_iff injective isFirst isSecond).mpr sameBytes)
  · intro told firstKey secondKey isFirst isSecond
    rw [assertion_keys_eq_iff injective isFirst isSecond]
    constructor
    · exact told
    · intro agrees
      obtain ⟨objectKey, built, _⟩ := buildAssertionKey_eq_ok.mp isFirst
      exact agrees.sameBytes built

/-! ## Fingerprints -/

/-- A reference with its display name normalized. -/
structure NormalRef where
  nodeType : NodeType
  name : JsString

def NormalRef.text (ref : NormalRef) : JsString := utf16 ref.nodeType.name ++ colon :: ref.name

def NormalRef.wellFormed (ref : NormalRef) : NormalRef := { ref with name := toWellFormed ref.name }

/-- The object of a candidate, normalized. -/
inductive NormalObject where
  | node (ref : NormalRef)
  | literal (valueType : ObjectValueType) (text : JsString)

def NormalObject.text : NormalObject → JsString
  | .node ref => utf16 "node:" ++ ref.text
  | .literal valueType text => literalText valueType text

def NormalObject.wellFormed : NormalObject → NormalObject
  | .node ref => .node ref.wellFormed
  | .literal valueType text => .literal valueType (toWellFormed text)

section

variable (platform : TextPlatform)

def normalRef (ref : UnresolvedNodeRef) : NormalRef := ⟨ref.nodeType, normalizeAliasText platform ref.displayName⟩

def normalObject : CandidateObjectRef → Except ErrorMessage NormalObject
  | .unresolved ref => .ok (.node (normalRef platform ref))
  | .literal valueType value => (normalizeLiteralValue platform valueType value).map (.literal valueType)

/-- The same proposal, after normalizing display names and literals. -/
def CandidateFingerprintInput.Agrees (first second : CandidateFingerprintInput) : Prop :=
  first.ownerId = second.ownerId ∧ normalRef platform first.subject = normalRef platform second.subject ∧
    first.predicate = second.predicate ∧ normalObject platform first.object = normalObject platform second.object ∧
    first.scope.map (normalRef platform) = second.scope.map (normalRef platform)

/-- The same proposal as far as bytes go: lone surrogates are not told apart. -/
def CandidateFingerprintInput.SameBytes (first second : CandidateFingerprintInput) : Prop :=
  first.ownerId = second.ownerId ∧
    (normalRef platform first.subject).wellFormed = (normalRef platform second.subject).wellFormed ∧
    first.predicate = second.predicate ∧
    (∃ firstObject secondObject, normalObject platform first.object = .ok firstObject ∧
      normalObject platform second.object = .ok secondObject ∧ firstObject.wellFormed = secondObject.wellFormed) ∧
    first.scope.map (fun scope => (normalRef platform scope).wellFormed) =
      second.scope.map fun scope => (normalRef platform scope).wellFormed

/-- The first object runs over a separator into what the second has for a scope. -/
def CandidateFingerprintInput.RunsOver (first second : CandidateFingerprintInput) : Prop :=
  first.ownerId = second.ownerId ∧
    (normalRef platform first.subject).wellFormed = (normalRef platform second.subject).wellFormed ∧
    first.predicate = second.predicate ∧
    ∃ firstObject secondObject, normalObject platform first.object = .ok firstObject ∧
      normalObject platform second.object = .ok secondObject ∧
      ∃ middle, firstObject.wellFormed.text = secondObject.wellFormed.text ++ KEY_SEPARATOR :: middle ∧
        toWellFormed (scopeKey platform second.scope) =
          middle ++ KEY_SEPARATOR :: toWellFormed (scopeKey platform first.scope)

/-- Two inputs that have fingerprints have the same one exactly when they are the same proposal. -/
def FingerprintsSeparate {Digest : Type} (sha256 : List UInt8 → Digest) (first second : CandidateFingerprintInput) :
    Prop :=
  ∀ firstKey secondKey, buildCandidateFingerprint platform sha256 first = .ok firstKey →
    buildCandidateFingerprint platform sha256 second = .ok secondKey →
    (firstKey = secondKey ↔ first.Agrees platform second)

end

theorem NormalRef.text_inj {first second : NormalRef} : first.text = second.text ↔ first = second := by
  constructor
  · intro same
    have absent : ∀ nodeType : NodeType, colon ∉ utf16 nodeType.name :=
      fun nodeType member => (nodeTypeName_plain nodeType colon member).2.1 rfl
    obtain ⟨sameType, sameName⟩ := (first_inj (absent first.nodeType) (absent second.nodeType)).mp same
    cases first
    cases second
    rw [NormalRef.mk.injEq]
    exact ⟨nodeTypeName_inj.mp sameType, sameName⟩
  · rintro rfl
    rfl

theorem NormalRef.toWellFormed_text (ref : NormalRef) : toWellFormed ref.text = ref.wellFormed.text :=
  toWellFormed_named ref.nodeType.name ref.name

theorem NormalObject.text_inj {first second : NormalObject} : first.text = second.text ↔ first = second := by
  cases first with
  | node ref =>
    cases second with
    | node other => simp [NormalObject.text, NormalRef.text_inj]
    | literal valueType text => simp [NormalObject.text, node_ne_literal]
  | literal valueType text =>
    cases second with
    | node other => simp [NormalObject.text, node_ne_literal.symm]
    | literal otherType otherText => simp [NormalObject.text, literalText_inj]

theorem NormalObject.toWellFormed_text (object : NormalObject) : toWellFormed object.text = object.wellFormed.text := by
  cases object with
  | node ref =>
    have joinedName : utf16 "node:" ++ utf16 ref.nodeType.name = utf16 ("node:" ++ ref.nodeType.name) := by
      simp [utf16]
    simp only [NormalObject.text, NormalObject.wellFormed, NormalRef.text, NormalRef.wellFormed]
    rw [← List.append_assoc, ← List.append_assoc, joinedName, toWellFormed_named]
  | literal valueType text => exact toWellFormed_literalText valueType text

theorem scopeKey_wellFormed (scope : Option UnresolvedNodeRef) :
    toWellFormed (scopeKey platform scope) =
      (scope.map fun ref => (normalRef platform ref).wellFormed).elim [] NormalRef.text := by
  cases scope with
  | none => rfl
  | some ref => exact (normalRef platform ref).toWellFormed_text

theorem scopeText_inj {first second : Option NormalRef} :
    first.elim [] NormalRef.text = second.elim [] NormalRef.text ↔ first = second := by
  cases first with
  | none => cases second <;> simp [NormalRef.text]
  | some ref =>
    cases second with
    | none => simp [NormalRef.text]
    | some other => simp [NormalRef.text_inj]

theorem candidateObjectKey_eq (object : CandidateObjectRef) :
    candidateObjectKey platform object = (normalObject platform object).map NormalObject.text := by
  cases object with
  | unresolved ref => rfl
  | literal valueType value =>
    cases normalized : normalizeLiteralValue platform valueType value with
    | error message => simp [candidateObjectKey, normalObject, normalized, Except.map]
    | ok text => simp [candidateObjectKey, normalObject, normalized, Except.map, NormalObject.text]

theorem buildCandidateFingerprint_eq_ok {input : CandidateFingerprintInput} {key : Digest} :
    buildCandidateFingerprint platform sha256 input = .ok key ↔
      ∃ object, normalObject platform input.object = .ok object ∧
        sha256Hex sha256 (joined
          [utf16 input.ownerId.val, (normalRef platform input.subject).text, utf16 (predicateName input.predicate),
            object.text, scopeKey platform input.scope]) = key := by
  rw [buildCandidateFingerprint, candidateObjectKey_eq]
  cases normalized : normalObject platform input.object with
  | error message => simp [Except.map]
  | ok object => simp [Except.map, unresolvedKey, normalRef, NormalRef.text]

/-- A subject is written without upper-case letters. -/
theorem subject_unmarked (lowered : ∀ text, ∀ unit ∈ platform.toLowerCase text, isUpperCase unit = false)
    (ref : UnresolvedNodeRef) : ∀ unit ∈ (normalRef platform ref).wellFormed.text, isUpperCase unit = false := by
  intro unit member
  simp only [NormalRef.text, NormalRef.wellFormed, normalRef, List.mem_append, List.mem_cons] at member
  obtain inType | isColon | inName := member
  · exact (nodeTypeName_plain ref.nodeType unit inType).1
  · rw [isColon]
    decide
  · cases mem_toWellFormed inName with
    | inl inside => exact lowered _ unit inside
    | inr isReplacement =>
      rw [isReplacement]
      decide

variable {first second : CandidateFingerprintInput}

/-- A predicate in upper case ends a subject; after it only the object and the scope can be cut in two ways. -/
theorem fingerprints_eq_iff (lowered : ∀ text, ∀ unit ∈ platform.toLowerCase text, isUpperCase unit = false)
    (injective : Function.Injective sha256) {firstKey secondKey : Digest}
    (isFirst : buildCandidateFingerprint platform sha256 first = .ok firstKey)
    (isSecond : buildCandidateFingerprint platform sha256 second = .ok secondKey) :
    firstKey = secondKey ↔
      first.SameBytes platform second ∨ first.RunsOver platform second ∨ second.RunsOver platform first := by
  obtain ⟨firstObject, builtFirst, rfl⟩ := buildCandidateFingerprint_eq_ok.mp isFirst
  obtain ⟨secondObject, builtSecond, rfl⟩ := buildCandidateFingerprint_eq_ok.mp isSecond
  rw [sha256Hex, sha256Hex, injective.eq_iff, encodeUtf8_inj, toWellFormed_joined, toWellFormed_joined,
    NormalRef.toWellFormed_text, NormalRef.toWellFormed_text, NormalObject.toWellFormed_text,
    NormalObject.toWellFormed_text]
  simp only [toWellFormed_utf16]
  obtain ⟨markedFirst, absentFirst⟩ := predicateName_marked first.predicate
  obtain ⟨markedSecond, absentSecond⟩ := predicateName_marked second.predicate
  rw [first_inj first.ownerId.property second.ownerId.property,
    marked_inj (subject_unmarked lowered first.subject) (subject_unmarked lowered second.subject) absentFirst
      absentSecond markedFirst markedSecond, utf16_inj, NormalRef.text_inj, predicateName_inj, ← Subtype.ext_iff]
  constructor
  · rintro ⟨sameOwner, sameSubject, samePredicate, sameRest⟩
    obtain ⟨sameObject, sameScope⟩ | ⟨middle, isObject, isScope⟩ | ⟨middle, isObject, isScope⟩ := cut_cases sameRest
    · rw [scopeKey_wellFormed, scopeKey_wellFormed, scopeText_inj] at sameScope
      exact .inl ⟨sameOwner, sameSubject, samePredicate,
        ⟨firstObject, secondObject, builtFirst, builtSecond, NormalObject.text_inj.mp sameObject⟩, sameScope⟩
    · exact .inr (.inl ⟨sameOwner, sameSubject, samePredicate, firstObject, secondObject, builtFirst, builtSecond,
        middle, isObject, isScope⟩)
    · exact .inr (.inr ⟨sameOwner.symm, sameSubject.symm, samePredicate.symm, secondObject, firstObject, builtSecond,
        builtFirst, middle, isObject, isScope⟩)
  · rintro (sameBytes | runsOver | runsOver)
    · obtain ⟨sameOwner, sameSubject, samePredicate, ⟨_, _, isFirst, isSecond, sameObject⟩, sameScope⟩ := sameBytes
      cases builtFirst.symm.trans isFirst
      cases builtSecond.symm.trans isSecond
      refine ⟨sameOwner, sameSubject, samePredicate, ?_⟩
      rw [sameObject, scopeKey_wellFormed, scopeKey_wellFormed, sameScope]
    · obtain ⟨sameOwner, sameSubject, samePredicate, _, _, isFirst, isSecond, middle, isObject, isScope⟩ := runsOver
      cases builtFirst.symm.trans isFirst
      cases builtSecond.symm.trans isSecond
      refine ⟨sameOwner, sameSubject, samePredicate, ?_⟩
      rw [isObject, isScope, List.append_assoc, List.cons_append]
    · obtain ⟨sameOwner, sameSubject, samePredicate, _, _, isSecond, isFirst, middle, isObject, isScope⟩ := runsOver
      cases builtFirst.symm.trans isFirst
      cases builtSecond.symm.trans isSecond
      refine ⟨sameOwner.symm, sameSubject.symm, samePredicate.symm, ?_⟩
      rw [isObject, isScope, List.append_assoc, List.cons_append]

theorem CandidateFingerprintInput.Agrees.sameBytes (agrees : first.Agrees platform second) {object : NormalObject}
    (built : normalObject platform first.object = .ok object) : first.SameBytes platform second := by
  obtain ⟨sameOwner, sameSubject, samePredicate, sameObject, sameScope⟩ := agrees
  refine ⟨sameOwner, congrArg NormalRef.wellFormed sameSubject, samePredicate,
    ⟨object, object, built, sameObject ▸ built, rfl⟩, ?_⟩
  have mapped := congrArg (Option.map NormalRef.wellFormed) sameScope
  simpa [Option.map_map, Function.comp_def] using mapped

/-- An object that runs over is another object. -/
theorem CandidateFingerprintInput.RunsOver.not_agrees (runsOver : first.RunsOver platform second) :
    ¬first.Agrees platform second ∧ ¬second.Agrees platform first := by
  obtain ⟨_, _, _, firstObject, secondObject, isFirst, isSecond, middle, isObject, _⟩ := runsOver
  have apart : normalObject platform first.object ≠ normalObject platform second.object := by
    intro same
    rw [isFirst, isSecond] at same
    cases same
    have lengths := congrArg List.length isObject
    simp at lengths
  exact ⟨fun agrees => apart agrees.2.2.2.1, fun agrees => apart agrees.2.2.2.1.symm⟩

/-- Fingerprints tell apart what bytes tell apart, unless an object runs over into a scope. -/
theorem fingerprints_separate_iff (lowered : ∀ text, ∀ unit ∈ platform.toLowerCase text, isUpperCase unit = false)
    (injective : Function.Injective sha256) (first second : CandidateFingerprintInput) :
    FingerprintsSeparate platform sha256 first second ↔
      (first.SameBytes platform second → first.Agrees platform second) ∧ ¬first.RunsOver platform second ∧
        ¬second.RunsOver platform first := by
  constructor
  · intro separate
    have ofObjects : ∀ {firstObject secondObject : NormalObject}, normalObject platform first.object = .ok firstObject →
        normalObject platform second.object = .ok secondObject →
        first.SameBytes platform second ∨ first.RunsOver platform second ∨ second.RunsOver platform first →
        first.Agrees platform second := by
      intro firstObject secondObject builtFirst builtSecond meets
      have isFirst := (@buildCandidateFingerprint_eq_ok Digest platform sha256 first _).mpr ⟨firstObject, builtFirst, rfl⟩
      have isSecond := (@buildCandidateFingerprint_eq_ok Digest platform sha256 second _).mpr ⟨secondObject, builtSecond, rfl⟩
      exact (separate _ _ isFirst isSecond).mp ((fingerprints_eq_iff lowered injective isFirst isSecond).mpr meets)
    refine ⟨?_, ?_, ?_⟩
    · intro sameBytes
      obtain ⟨_, _, _, ⟨_, _, builtFirst, builtSecond, _⟩, _⟩ := id sameBytes
      exact ofObjects builtFirst builtSecond (.inl sameBytes)
    · intro runsOver
      obtain ⟨_, _, _, _, _, builtFirst, builtSecond, _⟩ := id runsOver
      exact runsOver.not_agrees.1 (ofObjects builtFirst builtSecond (.inr (.inl runsOver)))
    · intro runsOver
      obtain ⟨_, _, _, _, _, builtSecond, builtFirst, _⟩ := id runsOver
      exact runsOver.not_agrees.2 (ofObjects builtFirst builtSecond (.inr (.inr runsOver)))
  · rintro ⟨told, notOver, notOverBack⟩ firstKey secondKey isFirst isSecond
    rw [fingerprints_eq_iff lowered injective isFirst isSecond]
    constructor
    · rintro (sameBytes | runsOver | runsOver)
      · exact told sameBytes
      · exact absurd runsOver notOver
      · exact absurd runsOver notOverBack
    · intro agrees
      obtain ⟨object, built, _⟩ := buildCandidateFingerprint_eq_ok.mp isFirst
      exact .inl (agrees.sameBytes built)

theorem not_runsOver_of_plain
    (plain : ∀ scope ∈ second.scope, KEY_SEPARATOR ∉ normalizeAliasText platform scope.displayName) :
    ¬first.RunsOver platform second := by
  rintro ⟨_, _, _, _, _, _, _, middle, _, isScope⟩
  have inside : KEY_SEPARATOR ∈ toWellFormed (scopeKey platform second.scope) := by simp [isScope]
  have absent : KEY_SEPARATOR ∉ scopeKey platform second.scope := by
    cases isSecond : second.scope with
    | none => simp [scopeKey]
    | some scope =>
      simp only [scopeKey, Option.elim_some, unresolvedKey, List.mem_append, List.mem_cons, not_or]
      exact ⟨fun member => (nodeTypeName_plain scope.nodeType _ member).2.2 rfl, by decide, plain scope isSecond⟩
  cases mem_toWellFormed inside with
  | inl member => exact absent member
  | inr isReplacement => exact absurd isReplacement (by decide)

/-- Assertion keys and fingerprints tell facts apart exactly where their bytes differ and no object runs over. -/
theorem memory_keys_separate_iff (platform : TextPlatform) (sha256 : List UInt8 → Digest)
    (lowered : ∀ text, ∀ unit ∈ platform.toLowerCase text, isUpperCase unit = false)
    (injective : Function.Injective sha256) (first second : AssertionKeyInput)
    (proposal other : CandidateFingerprintInput) :
    (AssertionKeysSeparate platform sha256 first second ↔
      (first.SameBytes platform second → first.Agrees platform second)) ∧
    (FingerprintsSeparate platform sha256 proposal other ↔
      (proposal.SameBytes platform other → proposal.Agrees platform other) ∧ ¬proposal.RunsOver platform other ∧
        ¬other.RunsOver platform proposal) :=
  ⟨assertion_keys_separate_iff injective first second, fingerprints_separate_iff lowered injective proposal other⟩

def asciiPlatform : TextPlatform where
  nfc := id
  toLowerCase := fun text => text.map fun unit => if isUpperCase unit then unit + 0x20 else unit
  dateParse := fun _ => none
  toISOString := fun _ => []

theorem asciiPlatform_lowered : ∀ text, ∀ unit ∈ asciiPlatform.toLowerCase text, isUpperCase unit = false := by
  intro text unit member
  obtain ⟨letter, _, rfl⟩ := List.mem_map.mp member
  by_cases isUpper : isUpperCase letter = true
  · simp only [isUpper, if_true]
    simp only [isUpperCase, Bool.and_eq_true, decide_eq_true_eq] at isUpper
    simp only [isUpperCase, UInt16.toNat_add, UInt16.reduceToNat, Bool.and_eq_false_iff, decide_eq_false_iff_not]
    omega
  · simp [isUpper]

def ownerId : Id := ⟨"owner", by decide⟩

def namedPerson (name : JsString) (present : name ≠ []) : UnresolvedNodeRef := ⟨.person, name, present⟩

/-- Uses of `a` under a separator and `person:b`, without a scope. -/
def longObject : CandidateFingerprintInput where
  ownerId := ownerId
  subject := namedPerson (utf16 "x") (by decide)
  predicate := .USES
  object := .unresolved (namedPerson (utf16 "a" ++ KEY_SEPARATOR :: utf16 "person:b") (by decide))
  scope := none

/-- Uses of `a`, in the scope of `b` and a separator. -/
def longScope : CandidateFingerprintInput where
  ownerId := ownerId
  subject := namedPerson (utf16 "x") (by decide)
  predicate := .USES
  object := .unresolved (namedPerson (utf16 "a") (by decide))
  scope := some (namedPerson (utf16 "b" ++ [KEY_SEPARATOR]) (by decide))

theorem longObject_runsOver : longObject.RunsOver asciiPlatform longScope := by
  refine ⟨rfl, rfl, rfl, _, _, rfl, rfl, utf16 "person:b", ?_, ?_⟩
  · decide +kernel
  · decide +kernel

/-- Two proposals with the same fingerprint. -/
theorem display_names_collide : ¬FingerprintsSeparate asciiPlatform id longObject longScope := by
  intro separate
  have holds := (fingerprints_separate_iff asciiPlatform_lowered Function.injective_id longObject longScope).mp separate
  exact holds.2.1 longObject_runsOver

/-- An assertion about a node, and one about a text. -/
def nodeFact : AssertionKeyInput := ⟨ownerId, ownerId, .USES, .node "node_1", none⟩

def textFact : AssertionKeyInput := ⟨ownerId, ownerId, .USES, .literal .string (.string (utf16 "node_1")), none⟩

theorem node_and_text_separate :
    AssertionKeysSeparate asciiPlatform id nodeFact textFact ∧
      FingerprintsSeparate asciiPlatform id longObject longObject := by
  have separate := memory_keys_separate_iff asciiPlatform id asciiPlatform_lowered Function.injective_id nodeFact textFact
    longObject longObject
  refine ⟨separate.1.mpr ?_, separate.2.mpr ⟨?_, ?_, ?_⟩⟩
  · rintro ⟨_, _, _, ⟨firstKey, secondKey, isFirst, isSecond, same⟩, _⟩
    cases isFirst
    cases isSecond
    cases same
  · exact fun _ => ⟨rfl, rfl, rfl, rfl, rfl⟩
  · exact not_runsOver_of_plain (by simp [longObject])
  · exact not_runsOver_of_plain (by simp [longObject])

end SiftKit.MemoryKeys
