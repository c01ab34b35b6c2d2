import Listing.Document.Scripted
import Listing.Proofs.Document.Reachable
import Mathlib.Data.String.Basic

namespace Listing.Document

open Number

def hexBytes? : List Char → Option (List UInt8)
  | [] => some []
  | [_] => none
  | a :: b :: s => do
    let high ← hexValue? a
    let low ← hexValue? b
    let bytes ← hexBytes? s
    pure (UInt8.ofNat (16 * high + low) :: bytes)

def hexText (bytes : List UInt8) : String :=
  String.ofList (bytes.flatMap fun b ↦ [hexDigit (b.toNat / 16), hexDigit (b.toNat % 16)])

/-- What reads document identifiers takes every text that spells 12 bytes for these bytes. -/
def ReadsHex (parse? : String → Option (List UInt8)) : Prop :=
  ∀ s bytes, hexBytes? s.toList = some bytes → bytes.length = 12 → parse? s = some bytes

/-- Whether a text is read as an identifier: 24 bytes, and nothing but hexadecimal digits. -/
def isCandidate (s : String) : Bool := s.utf8ByteSize = 24 && s.toList.all isHexDigit

def identifierOrText (parse? : String → Option (List UInt8)) (s : String) : Bson :=
  if isCandidate s then
    match parse? s with
    | some bytes => .objectId (hexText bytes)
    | none => .string s
  else .string s

mutual

def readBsonOf (parse? : String → Option (List UInt8)) : Value → Bson
  | .string s => identifierOrText parse? s
  | .list items => .array (readBsonsOf parse? items)
  | v => bsonOf false v

def readBsonsOf (parse? : String → Option (List UInt8)) : List Value → List Bson
  | [] => []
  | v :: r => readBsonOf parse? v :: readBsonsOf parse? r

end

def SpellsIdentifier (s : String) : Prop :=
  s.toList.length = 24 ∧ ∀ c ∈ s.toList, isHexDigit c = true

instance (s : String) : Decidable (SpellsIdentifier s) :=
  @instDecidableAnd _ _ _ (List.decidableBAll (fun c ↦ isHexDigit c = true) s.toList)

mutual

/-- A document value with identifiers, by their small digits, in the places of the texts that spell
them. -/
def identified : Bson → Bson
  | .string s =>
    if SpellsIdentifier s then .objectId (String.ofList (s.toList.map Text.asciiLower))
    else .string s
  | .array items => .array (identifiedAll items)
  | b => b

def identifiedAll : List Bson → List Bson
  | [] => []
  | b :: r => identified b :: identifiedAll r

end

theorem hexValue?_eq_some {c : Char} {n : Nat} (h : hexValue? c = some n) :
    (48 ≤ c.toNat ∧ c.toNat ≤ 57 ∧ n = c.toNat - 48) ∨
      (97 ≤ c.toNat ∧ c.toNat ≤ 102 ∧ n = c.toNat - 87) ∨
      (65 ≤ c.toNat ∧ c.toNat ≤ 70 ∧ n = c.toNat - 55) := by
  unfold hexValue? at h
  split at h
  next hc => exact .inl ⟨hc.1, hc.2, (Option.some.inj h).symm⟩
  next =>
    split at h
    next hc => exact .inr (.inl ⟨hc.1, hc.2, (Option.some.inj h).symm⟩)
    next =>
      split at h
      next hc => exact .inr (.inr ⟨hc.1, hc.2, (Option.some.inj h).symm⟩)
      next => cases h

theorem hexDigit_of_hexValue? {c : Char} {n : Nat} (h : hexValue? c = some n) :
    n < 16 ∧ hexDigit n = Text.asciiLower c := by
  have hcapital : 'A' ≤ c ∧ c ≤ 'Z' ↔ 65 ≤ c.toNat ∧ c.toNat ≤ 90 := Iff.rfl
  unfold hexDigit Text.asciiLower
  simp only [hcapital]
  rcases hexValue?_eq_some h with ⟨hl, hu, rfl⟩ | ⟨hl, hu, rfl⟩ | ⟨hl, hu, rfl⟩
  · rw [if_pos (by omega), if_neg (by omega), Nat.add_sub_cancel' hl, Char.ofNat_toNat]
    exact ⟨by omega, rfl⟩
  · rw [if_neg (by omega), if_neg (by omega), Nat.add_sub_cancel' (by omega), Char.ofNat_toNat]
    exact ⟨by omega, rfl⟩
  · rw [if_neg (by omega), if_pos (by omega)]
    exact ⟨by omega, congrArg Char.ofNat (by omega)⟩

theorem hexText_cons (b : UInt8) (bytes : List UInt8) :
    (hexText (b :: bytes)).toList =
      hexDigit (b.toNat / 16) :: hexDigit (b.toNat % 16) :: (hexText bytes).toList := by
  simp [hexText]

theorem hexText_of_hexBytes? {s : List Char} {bytes : List UInt8} (h : hexBytes? s = some bytes) :
    (hexText bytes).toList = s.map Text.asciiLower := by
  induction s using hexBytes?.induct generalizing bytes with
  | case1 =>
    cases h
    rfl
  | case2 c => cases h
  | case3 a b s ih =>
    simp only [hexBytes?, Option.bind_eq_bind, Option.bind_eq_some_iff, pure, Option.some.injEq] at h
    obtain ⟨high, ha, low, hb, rest, hs, rfl⟩ := h
    obtain ⟨hhigh, hda⟩ := hexDigit_of_hexValue? ha
    obtain ⟨hlow, hdb⟩ := hexDigit_of_hexValue? hb
    have hn : (UInt8.ofNat (16 * high + low)).toNat = 16 * high + low :=
      UInt8.toNat_ofNat_of_lt' (by simp [UInt8.size]; omega)
    rw [hexText_cons, hn, ih hs, List.map_cons, List.map_cons, ← hda, ← hdb]
    congr 2
    · omega
    · congr 1
      omega

theorem exists_hexBytes? {n : Nat} {s : List Char} (hl : s.length = 2 * n)
    (hs : ∀ c ∈ s, isHexDigit c = true) : ∃ bytes, hexBytes? s = some bytes ∧ bytes.length = n := by
  induction n generalizing s with
  | zero => exact ⟨[], by rw [List.length_eq_zero_iff.1 hl]; rfl, rfl⟩
  | succ n ih =>
    obtain _ | ⟨a, _ | ⟨b, s⟩⟩ := s
    · cases hl
    · exact absurd hl (by simp; omega)
    · obtain ⟨ha, hb, hr⟩ := by simpa only [List.forall_mem_cons] using hs
      obtain ⟨high, hhigh⟩ := Option.isSome_iff_exists.1 ha
      obtain ⟨low, hlow⟩ := Option.isSome_iff_exists.1 hb
      have hlen : s.length = 2 * n := by
        simp only [List.length_cons] at hl
        omega
      obtain ⟨bytes, hbytes, hn⟩ := ih hlen hr
      refine ⟨UInt8.ofNat (16 * high + low) :: bytes, ?_, congrArg (· + 1) hn⟩
      rw [hexBytes?, hhigh, hlow, hbytes]
      rfl

theorem utf8Size_of_isHexDigit {c : Char} (h : isHexDigit c = true) : c.utf8Size = 1 := by
  obtain ⟨n, hn⟩ := Option.isSome_iff_exists.1 h
  have hc : c.toNat ≤ 127 := by
    have hr := hexValue?_eq_some hn
    omega
  exact Char.utf8Size_eq_one_iff.2 hc

theorem utf8Len_of_isHexDigit {s : List Char} (h : ∀ c ∈ s, isHexDigit c = true) :
    String.utf8Len s = s.length := by
  induction s with
  | nil => rfl
  | cons c s ih =>
    obtain ⟨hc, hs⟩ := List.forall_mem_cons.1 h
    rw [String.utf8Len, utf8Size_of_isHexDigit hc, ih hs, List.length_cons]

theorem isCandidate_iff {s : String} : isCandidate s = true ↔ SpellsIdentifier s := by
  unfold isCandidate SpellsIdentifier
  rw [Bool.and_eq_true, decide_eq_true_eq, List.all_eq_true]
  -- A candidate has 24 bytes, which are as many characters only since all of them are digits.
  refine and_congr_left fun h ↦ ?_
  have hsize := String.utf8ByteSize_ofList s.toList
  rw [String.ofList_toList, utf8Len_of_isHexDigit h] at hsize
  rw [hsize]

theorem isObjectId_iff {s : String} : isObjectId s = true ↔ SpellsIdentifier s := by
  rw [isObjectId, Bool.and_eq_true, decide_eq_true_eq, List.all_eq_true]
  rfl

theorem exists_parse? {parse? : String → Option (List UInt8)} (h : ReadsHex parse?) {s : String}
    (hs : SpellsIdentifier s) : ∃ bytes, parse? s = some bytes ∧ bytes.length = 12 ∧
      hexBytes? s.toList = some bytes ∧
      hexText bytes = String.ofList (s.toList.map Text.asciiLower) := by
  obtain ⟨bytes, hb, hl⟩ := exists_hexBytes? (n := 12) hs.1 hs.2
  exact ⟨bytes, h s bytes hb hl, hl, hb,
    String.toList_inj.1 ((hexText_of_hexBytes? hb).trans (String.toList_ofList).symm)⟩

theorem identifierOrText_eq {parse? : String → Option (List UInt8)} (h : ReadsHex parse?)
    (s : String) : identifierOrText parse? s = bsonOf true (.string s) := by
  rw [identifierOrText, bsonOf, Bool.true_and]
  by_cases hs : SpellsIdentifier s
  · obtain ⟨bytes, hp, -, -, ht⟩ := exists_parse? h hs
    rw [if_pos (isCandidate_iff.2 hs), if_pos (isObjectId_iff.2 hs), hp, objectIdOf, ← ht]
  · rw [if_neg (mt isCandidate_iff.1 hs), if_neg (mt isObjectId_iff.1 hs)]

mutual

theorem readBsonOf_eq {parse? : String → Option (List UInt8)} (h : ReadsHex parse?) :
    ∀ v, readBsonOf parse? v = bsonOf true v
  | .string s => identifierOrText_eq h s
  | .list items => by rw [readBsonOf, bsonOf, readBsonsOf_eq h items]
  | .null | .bool _ | .int _ | .long _ | .float _ | .date _ | .dateTime _ | .timestamp _ => rfl

theorem readBsonsOf_eq {parse? : String → Option (List UInt8)} (h : ReadsHex parse?) :
    ∀ vs, readBsonsOf parse? vs = bsonsOf true vs
  | [] => rfl
  | v :: r => by rw [readBsonsOf, bsonsOf, readBsonOf_eq h v, readBsonsOf_eq h r]

end

mutual

theorem identified_bsonOf : ∀ v, identified (bsonOf false v) = bsonOf true v
  | .string s => by
    have hs : (isObjectId s = true) = SpellsIdentifier s := propext isObjectId_iff
    simp only [bsonOf, Bool.false_and, Bool.true_and, Bool.false_eq_true, if_false, identified,
      objectIdOf, hs]
  | .list items => by rw [bsonOf, identified, bsonOf, identifiedAll_bsonsOf items]
  | .null | .bool _ | .int _ | .long _ | .float _ | .date _ | .dateTime _ | .timestamp _ => rfl

theorem identifiedAll_bsonsOf : ∀ vs, identifiedAll (bsonsOf false vs) = bsonsOf true vs
  | [] => rfl
  | v :: r => by rw [bsonsOf, identifiedAll, bsonsOf, identified_bsonOf v, identifiedAll_bsonsOf r]

end

namespace Condition

/-- The operators that compare with the text of a value or with nothing. -/
def textual : List Operator := [.like, .notLike, .isNull, .isNotNull]

theorem operandOf_true (field : String) (o : Operator) (v : Value) :
    operandOf true field o v =
      (operandOf false field o v).map fun b ↦ if o ∈ textual then b else identified b := by
  have hv := (identified_bsonOf v).symm
  have hm : Bson.array (bsonsOf true v.members) = identified (.array (bsonsOf false v.members)) := by
    rw [identified, identifiedAll_bsonsOf]
  cases o with
  | like | notLike | isNull | isNotNull => rfl
  | among | notAmong => exact congrArg Except.ok hm
  | between =>
    cases v with
    | list items =>
      cases items with
      | nil => rfl
      | cons low r => exact congrArg Except.ok (identified_bsonOf low).symm
    | _ => exact congrArg Except.ok hv
  | _ => exact congrArg Except.ok hv

theorem ofPredicate_true (p : Predicate) :
    ofPredicate true p = (ofPredicate false p).map fun c ↦
      if p.operator ∈ textual then c else { c with operand := identified c.operand } := by
  unfold ofPredicate
  rw [operandOf_true]
  cases validate p.field with
  | error e => rfl
  | ok u =>
    cases operandOf false p.field p.operator p.value with
    | error e => rfl
    | ok b =>
      by_cases ho : p.operator ∈ textual
      · simp only [if_pos ho]
        rfl
      · simp only [if_neg ho]
        rfl

end Condition

namespace Query

variable {ε : Type}

/-- A field that holds identifiers, by its name or because it was registered for them. -/
def HoldsIdentifiers (q : Query ε) (field : String) : Prop :=
  field = "_id" ∨ "._id".toList <:+ field.toList ∨ field ∈ q.identifierFields

instance (q : Query ε) (field : String) : Decidable (q.HoldsIdentifiers field) :=
  inferInstanceAs (Decidable (_ ∨ _ ∨ _))

theorem isIdentifierField_iff {q : Query ε} {field : String} :
    q.isIdentifierField field = true ↔ q.HoldsIdentifiers field := by
  simp [isIdentifierField, HoldsIdentifiers, or_assoc]

/-- The condition of a predicate is the same for all fields but for identifiers: if the field holds
them, every text of 24 hexadecimal digits in the operand, at any depth, gives way to the identifier
that it spells, unless the operator looks at the text of the value or at no value. Such a text can
always be read, so that none is left as a text for want of a reading. -/
theorem addPredicate_reads_identifiers {parse? : String → Option (List UInt8)}
    (h : ReadsHex parse?) (q : Query ε) (p : Predicate) :
    (q.addPredicate p =
      match Condition.ofPredicate false p with
      | .error e => .error e.toQueryError
      | .ok c => .ok { q with
          conditions := q.conditions ++
            [if q.HoldsIdentifiers p.field ∧ p.operator ∉ Condition.textual then
              { c with operand := identified c.operand }
            else c] }) ∧
    (∀ v, bsonOf true v = readBsonOf parse? v) ∧
    ∀ s, (isCandidate s = true ↔ SpellsIdentifier s) ∧
      (SpellsIdentifier s → ∃ bytes, parse? s = some bytes ∧ bytes.length = 12 ∧
        hexBytes? s.toList = some bytes ∧
        hexText bytes = String.ofList (s.toList.map Text.asciiLower)) := by
  refine ⟨?_, fun v ↦ (readBsonOf_eq h v).symm, fun s ↦ ⟨isCandidate_iff, exists_parse? h⟩⟩
  unfold addPredicate
  by_cases hq : q.HoldsIdentifiers p.field
  · rw [isIdentifierField_iff.2 hq, Condition.ofPredicate_true]
    cases Condition.ofPredicate false p with
    | error e => rfl
    | ok c =>
      by_cases ho : p.operator ∈ Condition.textual <;> simp [hq, ho, Except.map]
  · rw [Bool.eq_false_iff.2 (mt isIdentifierField_iff.1 hq)]
    cases Condition.ofPredicate false p with
    | error e => rfl
    | ok c => simp [hq]

theorem addPredicate_reads_identifiers_in_nested_list :
    let parse? : String → Option (List UInt8) :=
      fun s ↦ (hexBytes? s.toList).filter fun bytes ↦ bytes.length = 12
    let owner : Predicate := .and "owner" .among
      (.list [.string "507F1F77bcf86cd799439011", .list [.string "507f1f77bcf86cd79943901é", .null]])
    let q : Query (Script Call) := { executor := {}, identifierFields := ["owner"] }
    ReadsHex parse? ∧ q.addPredicate owner = .ok { q with conditions := [⟨"owner", .among,
      .array [.objectId "507f1f77bcf86cd799439011",
        .array [.string "507f1f77bcf86cd79943901é", .null]], .and⟩] } := by
  intro parse? owner q
  have hp : ReadsHex parse? := by
    intro s bytes hb hl
    simp only [parse?, hb, Option.filter_some, hl, decide_true, if_true]
  have hs : SpellsIdentifier "507F1F77bcf86cd799439011" := by decide
  have hn : ¬ SpellsIdentifier "507f1f77bcf86cd79943901é" := by decide
  have hplain : Condition.ofPredicate false owner = .ok ⟨"owner", .among,
      .array [.string "507F1F77bcf86cd799439011",
        .array [.string "507f1f77bcf86cd79943901é", .null]], .and⟩ :=
    Condition.ofPredicate_eq_ok.2 ⟨by decide, _, rfl, rfl⟩
  have hq : q.HoldsIdentifiers owner.field ∧ owner.operator ∉ Condition.textual := by decide
  obtain ⟨he, -⟩ := addPredicate_reads_identifiers hp q owner
  rw [hplain] at he
  dsimp only at he
  rw [if_pos hq] at he
  simp only [identified, identifiedAll, if_pos hs, if_neg hn] at he
  exact ⟨hp, he⟩

end Query

end Listing.Document
