import Mathlib.Data.List.Induction
import RelGraph.Proofs.Document.Lifetime
import RelGraph.Proofs.Outcome

/-! Properties of living documents. A property is reached through two layers: the document's own
rule for the reserved key, and the payload's rule for all other keys. A payload is lawful when its
answers fit together: what it calls writable can be written and is read back, and what it does not
call writable is refused. Over a lawful payload a document keeps what it was made with, and says of
every key beforehand whether it can be written, whatever has been written so far, through the
document or past it. -/

namespace RelGraph

open RelGraph.Outcome

/-! ### Lawful payloads -/

/-- A write of a writable key is accepted, is read back, and touches no other key; a write of any
other key is refused as a fault of the configuration. -/
class Payload.Lawful (π : Type) [Payload π] : Prop where
  accepts : ∀ (p : π) (key : String) (value : Json), isWritable p key = true →
    ∃ p', setProperty p key value = .ok p' ∧ property? p' key = some value ∧
      ∀ k, k ≠ key → property? p' k = property? p k
  refuses : ∀ (p : π) (key : String) (value : Json), isWritable p key = false →
    ∃ fault, setProperty p key value = .error fault ∧ fault.family = .configuration

/-- The payload without properties has no writable key. -/
instance : Payload.Lawful Unit where
  accepts := by
    intro _ key value h
    cases h
  refuses := by
    intro _ key value _
    exact ⟨.readOnlyProperty key, rfl, rfl⟩

theorem PropertyMap.get?_put (m : PropertyMap) (key k : String) (value : Json) :
    (m.put key value).get? k = if key = k then some value else m.get? k := by
  unfold get? put
  rw [Ascending.find?_insert]
  split <;> rfl

instance : Payload.Lawful PropertyMap where
  accepts := by
    intro m key value _
    refine ⟨m.put key value, rfl, ?_, fun k hk => ?_⟩
    · show (m.put key value).get? key = some value
      rw [PropertyMap.get?_put, if_pos rfl]
    · show (m.put key value).get? k = m.get? k
      rw [PropertyMap.get?_put, if_neg hk.symm]
  refuses := by
    intro m key value h
    cases h

namespace Document

variable {π : Type} [Payload π] {d e : Document π} {key : String}

/-! ### The two layers -/

@[simp] theorem property?_reservedKey (d : Document π) :
    d.property? reservedKey = some (.matcher d.matcher) := by
  rw [property?, if_pos rfl]

theorem property?_of_ne (d : Document π) (h : key ≠ reservedKey) :
    d.property? key = (Payload.property? d.payload key).map .payload := by
  rw [property?, if_neg h]

@[simp] theorem isWritable_reservedKey (d : Document π) : d.isWritable reservedKey = false := by
  simp [isWritable]

theorem isWritable_of_ne (d : Document π) (h : key ≠ reservedKey) :
    d.isWritable key = Payload.isWritable d.payload key := by
  simp [isWritable, h]

theorem setPayloadProperty_eq_ok {d' : Document π} {value : Json} :
    d.setPayloadProperty key value = .ok d' ↔
      ∃ p, Payload.setProperty d.payload key value = .ok p ∧ d' = { d with payload := p } := by
  simp only [setPayloadProperty, bind_eq_ok, pure_eq_ok, eq_comm (a := d')]

section Lawful

variable [Payload.Lawful π]

/-- What a document calls writable can be written, is read back, and no other property changes. -/
theorem exists_setProperty_of_isWritable (h : d.isWritable key = true) (value : Json) :
    ∃ d', d.setProperty key value = .ok d' ∧ d'.property? key = some (.payload value) ∧
      ∀ k, k ≠ key → d'.property? k = d.property? k := by
  have hkey : key ≠ reservedKey := by
    rintro rfl
    rw [isWritable_reservedKey] at h
    cases h
  rw [isWritable_of_ne d hkey] at h
  obtain ⟨p, hset, hread, hothers⟩ := Payload.Lawful.accepts d.payload key value h
  refine ⟨{ d with payload := p }, ?_, ?_, fun k hk => ?_⟩
  · rw [setProperty, if_neg hkey]
    exact setPayloadProperty_eq_ok.2 ⟨p, hset, rfl⟩
  · rw [property?_of_ne _ hkey, hread, Option.map_some]
  · by_cases hreserved : k = reservedKey
    · rw [hreserved, property?_reservedKey, property?_reservedKey]
    · rw [property?_of_ne _ hreserved, property?_of_ne _ hreserved, hothers k hk]

/-- What a document does not call writable is refused, by the document or by its payload. -/
theorem exists_fault_of_not_isWritable (h : d.isWritable key = false) (value : Json) :
    ∃ fault, d.setProperty key value = .error fault ∧ fault.family = .configuration := by
  by_cases hkey : key = reservedKey
  · refine ⟨.readOnlyProperty key, ?_, rfl⟩
    rw [setProperty, if_pos hkey]
  · rw [isWritable_of_ne d hkey] at h
    obtain ⟨fault, hset, hfamily⟩ := Payload.Lawful.refuses d.payload key value h
    refine ⟨fault, ?_, hfamily⟩
    rw [setProperty, if_neg hkey, setPayloadProperty, hset]
    rfl

end Lawful

/-! ### Lives -/

/-- Sets a property where the document stands. -/
def setInPlace (d : Document π) (key : String) (value : Json) : Document π × Option Fault :=
  inPlace d (d.setProperty key value)

/-- Writes to the payload where the document stands, past its rule for the reserved key. -/
def writeInPlace (d : Document π) (key : String) (value : Json) : Document π × Option Fault :=
  inPlace d (d.setPayloadProperty key value)

/-- What a document can become: by properties that are set, by writes to its payload, and by any
other payload that is put in its place. -/
inductive Becomes (d : Document π) : Document π → Prop
  | start : Becomes d d
  | set {e : Document π} (h : Becomes d e) (key : String) (value : Json) :
    Becomes d (e.setInPlace key value).1
  | write {e : Document π} (h : Becomes d e) (key : String) (value : Json) :
    Becomes d (e.writeInPlace key value).1
  | replace {e : Document π} (h : Becomes d e) (payload : π) : Becomes d { e with payload }

theorem exists_writeInPlace_eq (d : Document π) (key : String) (value : Json) :
    ∃ payload, (d.writeInPlace key value).1 = { d with payload } := by
  unfold writeInPlace
  cases h : d.setPayloadProperty key value with
  | ok d' =>
    obtain ⟨p, -, hd'⟩ := setPayloadProperty_eq_ok.1 h
    exact ⟨p, hd'⟩
  | error fault => exact ⟨d.payload, rfl⟩

/-- A write through the document is refused or is a write to the payload. -/
theorem exists_setInPlace_eq (d : Document π) (key : String) (value : Json) :
    ∃ payload, (d.setInPlace key value).1 = { d with payload } := by
  unfold setInPlace setProperty
  split
  · exact ⟨d.payload, rfl⟩
  · exact exists_writeInPlace_eq d key value

/-- Nothing but the payload changes in the life of a document. -/
theorem Becomes.exists_eq (h : Becomes d e) : ∃ payload, e = { d with payload } := by
  induction h with
  | start => exact ⟨d.payload, rfl⟩
  | @set e _ key value ih =>
    obtain ⟨payload, rfl⟩ := ih
    exact exists_setInPlace_eq _ key value
  | @write e _ key value ih =>
    obtain ⟨payload, rfl⟩ := ih
    exact exists_writeInPlace_eq _ key value
  | @replace e _ payload ih =>
    obtain ⟨_, rfl⟩ := ih
    exact ⟨payload, rfl⟩

/-- A history of writes to a document with a property map is a part of its life. -/
theorem becomes_edited (d : Document PropertyMap) (edits : List Edit) :
    Becomes d (d.edited edits) := by
  induction edits using List.reverseRecOn with
  | nil => exact .start
  | append_singleton edits e ih =>
    have hlast : d.edited (edits ++ [e]) = (d.edited edits).edit e := List.foldl_append
    rw [hlast]
    cases e with
    | set key value =>
      have hedit : (d.edited edits).edit (.set key value) =
          ((d.edited edits).setInPlace key value).1 := by
        simp only [edit, setInPlace]
        cases (d.edited edits).setProperty key value <;> rfl
      rw [hedit]
      exact ih.set key value
    | write key value => exact ih.write key value
    | replace payload => exact ih.replace payload

/-! ### What is kept -/

/-- The document has the name and the applicability, and for every key its answers fit together. -/
structure Keeps (name : String) (matcher : Applicability) (d : Document π) : Prop where
  name_eq : d.name = name
  matcher_eq : d.matcher = matcher
  appliesTo_eq : ∀ m, d.appliesTo m = matcher.appliesTo m
  property?_reservedKey : d.property? reservedKey = some (.matcher matcher)
  isWritable_reservedKey : d.isWritable reservedKey = false
  accepts : ∀ key value, d.isWritable key = true → ∃ d', d.setInPlace key value = (d', none) ∧
    d'.property? key = some (.payload value) ∧ ∀ k, k ≠ key → d'.property? k = d.property? k
  refuses : ∀ key value, d.isWritable key = false →
    ∃ fault, d.setInPlace key value = (d, some fault) ∧ fault.family = .configuration

theorem keeps_of_becomes [Payload.Lawful π] (h : Becomes d e) : Keeps d.name d.matcher e := by
  obtain ⟨payload, rfl⟩ := h.exists_eq
  refine ⟨rfl, rfl, fun _ => rfl, Document.property?_reservedKey _,
    Document.isWritable_reservedKey _, fun key value hkey => ?_, fun key value hkey => ?_⟩
  · obtain ⟨d', hset, hread, hothers⟩ := exists_setProperty_of_isWritable hkey value
    exact ⟨d', by rw [setInPlace, hset, inPlace], hread, hothers⟩
  · obtain ⟨fault, hset, hfamily⟩ := exists_fault_of_not_isWritable hkey value
    exact ⟨fault, by rw [setInPlace, hset, inPlace], hfamily⟩

/-- In its whole life a document, with a property map or without properties, keeps the name and the
applicability that it was made with. The reserved key always reads as this applicability and is
never writable, even when a write past the document brings the payload an entry with that key. A
property is set exactly when its key was writable just before; it is then read back and no other
property changes, and a write that is refused changes nothing. -/
theorem keeps_of_make_of_becomes :
    (∀ {name matcher} {payload : PropertyMap} {d e : Document PropertyMap},
      make name matcher payload = .ok d → Becomes d e → Keeps name matcher e) ∧
    (∀ {name matcher} {d e : Document Unit},
      make name matcher () = .ok d → Becomes d e → Keeps name matcher e) := by
  constructor
  · intro name matcher payload d e hmake hlife
    obtain ⟨rfl, rfl, -⟩ := parts_of_make hmake
    exact keeps_of_becomes hlife
  · intro name matcher d e hmake hlife
    obtain ⟨rfl, rfl, -⟩ := parts_of_make hmake
    exact keeps_of_becomes hlife

/-- A property is set, and then the payload gets an entry with the reserved key past the
document. -/
def overwrite : List Edit := [.set "color" .null, .write reservedKey "any"]

/-- A document without properties. -/
def bareSample : Document Unit := ⟨"bare", .model "code", (), rfl⟩

theorem keeps_of_make_of_becomes_sample :
    let e := sample.edited overwrite
    make "notes" .any (PropertyMap.put ∅ "color" "red") = .ok sample ∧ Becomes sample e ∧
      reservedKey ∈ e.payload.keys ∧ e.property? reservedKey = some (.matcher .any) ∧
      (∃ fault, e.setInPlace reservedKey "x" = (e, some fault)) ∧
      make "bare" (.model "code") () = .ok bareSample ∧
      ∃ fault, bareSample.setInPlace "color" "red" = (bareSample, some fault) := by
  intro e
  have hmake : make "notes" .any (PropertyMap.put ∅ "color" "red") = .ok sample := rfl
  have hlife : Becomes sample e := becomes_edited sample overwrite
  have hbare : make "bare" (.model "code") () = .ok bareSample := rfl
  obtain ⟨hmap, hunit⟩ := keeps_of_make_of_becomes
  have hkeeps := hmap hmake hlife
  obtain ⟨fault, hfault, -⟩ := hkeeps.refuses reservedKey "x" hkeeps.isWritable_reservedKey
  obtain ⟨fault', hfault', -⟩ := (hunit hbare .start).refuses "color" "red" rfl
  exact ⟨hmake, hlife, by decide, hkeeps.property?_reservedKey, ⟨fault, hfault⟩, hbare, fault',
    hfault'⟩

end Document

end RelGraph
