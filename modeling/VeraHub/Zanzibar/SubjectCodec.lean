import VeraHub.Library.Exec
import VeraHub.Zanzibar.Types

/-!
# The wire tuple of a subject

A subject travels as a kind and three texts.  The codec is an exact inverse on
its frozen grammar; the relationship constructor accepts subjects outside it.
-/

namespace VeraHub.Zanzibar

/-! ## Relationships -/

/-- Characters that separate the parts of a storage key. -/
def forbiddenChars : List Char :=
  ['/', '\\']

def validateField (field value : String) : Except Error Unit :=
  if value = "" then
    .error (.invalidRelationshipField field "must not be empty")
  else
    match value.toList.find? forbiddenChars.contains with
    | some character =>
      .error (.invalidRelationshipField field s!"contains forbidden character '{character}'")
    | none => .ok ()

/-- The fields of the object are checked, the subject is not. -/
def Relationship.tryNew (resource objectId relation : String) (subject : Subject) :
    Except Error Relationship := do
  validateField "resource" resource
  validateField "object_id" objectId
  validateField "relation" relation
  .ok ⟨resource, objectId, relation, subject⟩

/-! ## The codec -/

structure SubjectTuple where
  kind : UInt8
  resource : String
  objectId : String
  relation : String
deriving DecidableEq

def encodeSubject : Subject → Except Error SubjectTuple
  | .entity did => .ok ⟨0, "", did.asStr, ""⟩
  | .wildcard => .ok ⟨1, "", "", ""⟩
  | .entitySet resource objectId relation =>
    if relation = "" then .ok ⟨2, resource, objectId, ""⟩
    else .ok ⟨3, resource, objectId, relation⟩
  | .typedWildcard resource =>
    .error (.invalidSubjectEncoding
      s!"TypedWildcard (resource '{resource}') is reserved (kind 4) but not implemented")

/-- An entity set whose relation is empty exactly for an object edge. -/
def decodeEntitySet (meaning : String) (tuple : SubjectTuple) : Except Error Subject :=
  if tuple.resource = "" then
    .error (.invalidSubjectEncoding s!"{meaning} requires non-empty resource")
  else if tuple.objectId = "" then
    .error (.invalidSubjectEncoding s!"{meaning} requires non-empty object_id")
  else if tuple.kind = 2 ∧ tuple.relation ≠ "" then
    .error (.invalidSubjectEncoding s!"{meaning} requires empty relation, got '{tuple.relation}'")
  else if tuple.kind = 3 ∧ tuple.relation = "" then
    .error (.invalidSubjectEncoding s!"{meaning} requires non-empty relation")
  else
    .ok (.entitySet tuple.resource tuple.objectId tuple.relation)

def decodeSubject (tuple : SubjectTuple) : Except Error Subject :=
  if tuple.kind = 0 then
    if tuple.resource ≠ "" then
      .error (.invalidSubjectEncoding
        s!"kind 0 (Entity) requires empty resource, got '{tuple.resource}'")
    else if tuple.relation ≠ "" then
      .error (.invalidSubjectEncoding
        s!"kind 0 (Entity) requires empty relation, got '{tuple.relation}'")
    else
      match Did.new tuple.objectId with
      | .ok did => .ok (.entity did)
      | .error error =>
        .error (.invalidSubjectEncoding
          s!"kind 0 (Entity) object_id '{tuple.objectId}' is not a valid DID: {error.text}")
  else if tuple.kind = 1 then
    if tuple.resource ≠ "" ∨ tuple.objectId ≠ "" ∨ tuple.relation ≠ "" then
      .error (.invalidSubjectEncoding (s!"kind 1 (Wildcard) requires all fields empty, " ++
        s!"got resource '{tuple.resource}', object_id '{tuple.objectId}', " ++
          s!"relation '{tuple.relation}'"))
    else
      .ok .wildcard
  else if tuple.kind = 2 then
    decodeEntitySet "kind 2 (object edge)" tuple
  else if tuple.kind = 3 then
    decodeEntitySet "kind 3 (userset)" tuple
  else
    .error (.invalidSubjectEncoding s!"unrecognized subject kind {tuple.kind}")

/-! ## The frozen grammar -/

def Subject.InGrammar : Subject → Prop
  | .entity did => did.asStr ≠ "*"
  | .entitySet resource objectId _ => resource ≠ "" ∧ objectId ≠ ""
  | .typedWildcard _ => False
  | .wildcard => True

theorem encodeSubject_entitySet (resource objectId relation : String) :
    encodeSubject (.entitySet resource objectId relation) =
      .ok ⟨if relation = "" then 2 else 3, resource, objectId, relation⟩ := by
  by_cases empty : relation = ""
  · simp [encodeSubject, empty]
  · simp [encodeSubject, empty]

theorem didNew_eq_ok_iff {text : String} {did : Did} :
    Did.new text = .ok did ↔ did.asStr ≠ "*" ∧ did.asStr = text := by
  unfold Did.new
  constructor
  · intro created
    split at created
    · rename_i accepted
      cases created
      refine ⟨?_, rfl⟩
      rintro rfl
      exact absurd accepted (by decide)
    · cases created
  · rintro ⟨plain, rfl⟩
    rw [dif_pos (did.supported.resolve_left plain)]

variable {tuple : SubjectTuple}

theorem decodeEntitySet_eq_ok_iff {meaning : String} {subject : Subject} :
    decodeEntitySet meaning tuple = .ok subject ↔
      tuple.resource ≠ "" ∧ tuple.objectId ≠ "" ∧
        (tuple.kind = 2 → tuple.relation = "") ∧ (tuple.kind = 3 → tuple.relation ≠ "") ∧
          subject = .entitySet tuple.resource tuple.objectId tuple.relation := by
  unfold decodeEntitySet
  split_ifs with noResource noObject extra missing
  · simp [noResource]
  · simp [noObject]
  · simp [extra]
  · simp [missing]
  · constructor
    · intro decoded
      cases decoded
      refine ⟨noResource, noObject, ?_, ?_, rfl⟩
      · exact fun edge => not_not.mp fun named => extra ⟨edge, named⟩
      · exact fun userset empty => missing ⟨userset, empty⟩
    · rintro ⟨_, _, _, _, rfl⟩
      rfl

/-- A tuple is read as a subject of the grammar that is written as this tuple. -/
theorem decodeSubject_eq_ok_iff {subject : Subject} :
    decodeSubject tuple = .ok subject ↔
      subject.InGrammar ∧ encodeSubject subject = .ok tuple := by
  constructor
  · intro decoded
    obtain ⟨kind, resource, objectId, relation⟩ := tuple
    unfold decodeSubject at decoded
    split_ifs at decoded with isEntity full named isWildcard full isEdge isUserset
    · simp only [not_not] at full named
      split at decoded
      · rename_i did created
        obtain ⟨plain, isText⟩ := didNew_eq_ok_iff.mp created
        cases decoded
        exact ⟨plain, by simp_all [encodeSubject]⟩
      · cases decoded
    · cases decoded
      exact ⟨trivial, by simp_all [encodeSubject]⟩
    · obtain ⟨hasResource, hasObject, empty, _, rfl⟩ := decodeEntitySet_eq_ok_iff.mp decoded
      exact ⟨⟨hasResource, hasObject⟩, by simp_all [encodeSubject_entitySet]⟩
    · obtain ⟨hasResource, hasObject, _, named, rfl⟩ := decodeEntitySet_eq_ok_iff.mp decoded
      exact ⟨⟨hasResource, hasObject⟩, by simp_all [encodeSubject_entitySet]⟩
  · rintro ⟨grammar, encoded⟩
    cases subject with
    | entity did =>
      cases encoded
      have created := didNew_eq_ok_iff.mpr ⟨grammar, rfl⟩
      simp [decodeSubject, created]
    | entitySet resource objectId relation =>
      rw [encodeSubject_entitySet] at encoded
      cases encoded
      by_cases empty : relation = ""
      · simp [decodeSubject, decodeEntitySet, grammar.1, grammar.2, empty]
      · simp [decodeSubject, decodeEntitySet, grammar.1, grammar.2, empty]
    | typedWildcard resource => cases encoded
    | wildcard =>
      cases encoded
      rfl

/-- The kind and the texts of a tuple tell which subject was written. -/
theorem encodeSubject_inj {first second : Subject} (isFirst : encodeSubject first = .ok tuple)
    (isSecond : encodeSubject second = .ok tuple) : first = second := by
  rw [← isSecond] at isFirst
  cases first with
  | entity did => cases second <;> grind [encodeSubject, Did.ext]
  | entitySet resource objectId relation =>
    cases second <;> grind [encodeSubject, encodeSubject_entitySet]
  | typedWildcard resource => cases second <;> grind [encodeSubject]
  | wildcard => cases second <;> grind [encodeSubject, encodeSubject_entitySet]

/-- The subjects read back from their own tuples are those of the grammar, a
tuple comes from at most one subject, and a tuple that is read is written again. -/
theorem subject_tuples_exact :
    (∀ subject, (∃ tuple, encodeSubject subject = .ok tuple ∧
        decodeSubject tuple = .ok subject) ↔ subject.InGrammar) ∧
      (∀ first second tuple, encodeSubject first = .ok tuple →
        encodeSubject second = .ok tuple → first = second) ∧
      ∀ tuple subject, decodeSubject tuple = .ok subject → encodeSubject subject = .ok tuple := by
  refine ⟨?_, fun _ _ _ => encodeSubject_inj, fun _ _ decoded => ?_⟩
  · intro subject
    constructor
    · rintro ⟨tuple, _, decoded⟩
      exact (decodeSubject_eq_ok_iff.mp decoded).1
    · intro grammar
      obtain ⟨tuple, encoded⟩ : ∃ tuple, encodeSubject subject = .ok tuple := by
        cases subject with
        | entity did => exact ⟨_, rfl⟩
        | entitySet resource objectId relation => exact ⟨_, encodeSubject_entitySet _ _ _⟩
        | typedWildcard resource => exact grammar.elim
        | wildcard => exact ⟨_, rfl⟩
      exact ⟨tuple, encoded, decodeSubject_eq_ok_iff.mpr ⟨grammar, encoded⟩⟩
  · exact (decodeSubject_eq_ok_iff.mp decoded).2

theorem folder_edge_is_written_again :
    encodeSubject (.entitySet "folder" "a" "") = .ok ⟨2, "folder", "a", ""⟩ :=
  subject_tuples_exact.2.2 ⟨2, "folder", "a", ""⟩ (.entitySet "folder" "a" "") rfl

/-- A typed wildcard and an entity set without a resource are accepted by the
constructor; one has no tuple and the tuple of the other is refused. -/
theorem accepted_subjects_without_tuple :
    Relationship.tryNew "file" "a" "reader" (.typedWildcard "user") =
        .ok ⟨"file", "a", "reader", .typedWildcard "user"⟩ ∧
      (¬ ∃ tuple, encodeSubject (.typedWildcard "user") = .ok tuple) ∧
      Relationship.tryNew "file" "a" "reader" (.entitySet "" "" "") =
        .ok ⟨"file", "a", "reader", .entitySet "" "" ""⟩ ∧
      encodeSubject (.entitySet "" "" "") = .ok ⟨2, "", "", ""⟩ ∧
      ¬ ∃ subject, decodeSubject ⟨2, "", "", ""⟩ = .ok subject := by
  refine ⟨rfl, ?_, rfl, rfl, ?_⟩
  · rintro ⟨tuple, encoded⟩
    cases encoded
  · rintro ⟨subject, decoded⟩
    cases decoded

end VeraHub.Zanzibar
