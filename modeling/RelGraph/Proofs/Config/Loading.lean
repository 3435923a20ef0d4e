import RelGraph.Config.Discovery
import RelGraph.Proofs.Document

/-! What is loaded. A configuration is read from a datum, whether it stands in a file by itself or
under the variables of the environment. So its properties are values of data: their objects are in
order, and they are stored values when their numbers can be written. -/

namespace RelGraph.Config

variable {c : Config} {conventions : Datum.Conventions} {data : Datum}

/-- Whole numbers are all that can keep a property from being a stored value. -/
def PropertiesInOrder (d : DocumentEntry) : Prop :=
  ∀ e ∈ d.payload.entries, e.2.Whole → e.2.Stored

theorem DocumentEntry.propertiesInOrder {d : DocumentEntry}
    (h : DocumentEntry.ofDatum? conventions data = some d) : PropertiesInOrder d := by
  obtain ⟨fields, -, h⟩ := Option.bind_eq_some_iff.1 h
  split at h
  · next name matcher properties =>
    obtain ⟨_, -, h⟩ := Option.bind_eq_some_iff.1 h
    obtain ⟨_, -, h⟩ := Option.bind_eq_some_iff.1 h
    obtain ⟨payload, hpayload, h⟩ := Option.bind_eq_some_iff.1 h
    cases h
    intro e he
    cases properties with
    | none =>
      cases hpayload
      cases he
    | some properties => exact PropertyMap.stored_of_ofDatum? hpayload he
  · cases h

theorem propertiesInOrder_of_ofDatum? (h : ofDatum? conventions data = some c) :
    ∀ d ∈ c.documents, PropertiesInOrder d := by
  obtain ⟨fields, -, h⟩ := Option.bind_eq_some_iff.1 h
  split at h
  · next documents =>
    iterate 6 obtain ⟨_, -, h⟩ := Option.bind_eq_some_iff.1 h
    obtain ⟨entries, hentries, h⟩ := Option.bind_eq_some_iff.1 h
    cases h
    intro d hd
    cases documents with
    | none =>
      cases hentries
      cases hd
    | some documents =>
      obtain ⟨_, hentry⟩ := Datum.exists_of_list?_eq_some hentries hd
      exact DocumentEntry.propertiesInOrder hentry
  · cases h

theorem exists_ofDatum?_of_ofLayers {stem : String} {environment : List (String × String)}
    {text : String} (h : ofLayers stem environment text = .ok c) :
    ∃ data, ofDatum? .layered data = some c := by
  rw [ofLayers] at h
  split at h
  · rw [ofLayered] at h
    split at h
    · next hread =>
      cases h
      exact ⟨_, hread⟩
    · cases h
  · cases h

/-- A configuration that is loaded from a file has its properties in order. -/
theorem propertiesInOrder_of_loadFrom {discovery : Discovery} {path : String}
    (h : discovery.loadFrom path = .ok c) : ∀ d ∈ c.documents, PropertiesInOrder d := by
  rw [Discovery.loadFrom] at h
  cases hfile : discovery.files path with
  | text content =>
    rw [hfile] at h
    obtain ⟨_, hread⟩ := exists_ofDatum?_of_ofLayers h
    exact propertiesInOrder_of_ofDatum? hread
  | _ =>
    rw [hfile] at h
    cases h

theorem propertiesInOrder_of_load {discovery : Discovery} (h : discovery.load = .ok c) :
    ∀ d ∈ c.documents, PropertiesInOrder d := by
  rw [Discovery.load] at h
  split at h
  · exact propertiesInOrder_of_loadFrom h
  · cases h

end RelGraph.Config
