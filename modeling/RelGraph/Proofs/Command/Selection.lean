import RelGraph.Proofs.Command.Session
import RelGraph.Proofs.Config.Building
import RelGraph.Proofs.Config.Loading
import RelGraph.Proofs.Config.Models
import RelGraph.Proofs.Config.Validation
import RelGraph.Proofs.Persistence

/-! Selecting documents from the command line. Every run is about the same list: the configured
documents that apply to the model, in the order of the configuration, or the first of them alone. It
is shown as names or as records, and the records are read back as the documents that were
configured. -/

namespace RelGraph

open RelGraph.Outcome

/-! ### What is selected -/

namespace Config

/-- The configured documents that apply to the model. -/
def applying (c : Config) (m : Model) : List DocumentEntry :=
  c.documents.filter (·.matcher.appliesTo m)

/-- All documents that apply to the model, or the first one alone. -/
def chosen (c : Config) (m : Model) (best : Bool) : List DocumentEntry :=
  if best then (c.applying m).take 1 else c.applying m

end Config

theorem Document.best?_eq_head? {π : Type} (docs : List (Document π)) (m : Model) :
    best? docs m = (select docs m).head? :=
  (List.head?_filter ..).symm

namespace Command

open Config (Resolved DocumentEntry)

variable {c : Config} {r : Resolved} {m : Model}

section Resolved

variable (hresolve : c.resolve = .ok r)
include hresolve

theorem map_describe_documents : r.documents.map Document.describe = c.documents := by
  obtain ⟨-, -, -, -, -, -, hdocuments, -⟩ := Config.resolve_eq_ok.1 hresolve
  exact Config.map_describe_of_buildDocuments hdocuments

theorem map_describe_select (m : Model) :
    (Document.select r.documents m).map Document.describe = c.applying m := by
  rw [Config.applying, ← map_describe_documents hresolve, List.filter_map]
  rfl

theorem map_describe_selected (m : Model) (best : Bool) :
    (selected r m best).map Document.describe = c.chosen m best := by
  rw [selected, Config.chosen, ← map_describe_select hresolve m]
  cases best with
  | false => rfl
  | true => exact List.map_take

theorem map_describe_best? (m : Model) :
    (Document.best? r.documents m).toList.map Document.describe = c.chosen m true := by
  rw [Document.best?_eq_head?, Config.chosen, if_pos rfl, ← map_describe_select hresolve m,
    ← List.map_take]
  cases Document.select r.documents m <;> rfl

/-- A configured document is built, and what is built is what is configured. -/
theorem exists_build_of_mem {d : DocumentEntry} (hd : d ∈ c.documents) :
    ∃ doc, d.build = .ok doc ∧ doc.describe = d := by
  obtain ⟨-, -, -, -, -, -, hdocuments, -⟩ := Config.resolve_eq_ok.1 hresolve
  rw [Config.buildDocuments, ofGraph_eq_ok, mapM_eq_ok] at hdocuments
  obtain ⟨doc, -, hbuild⟩ := hdocuments.exists_mem hd
  exact ⟨doc, hbuild, Config.describe_of_build hbuild⟩

theorem nodup_names_applying (m : Model) : ((c.applying m).map (·.name)).Nodup := by
  obtain ⟨hvalid, -⟩ := Config.resolve_eq_ok.1 hresolve
  obtain ⟨-, -, -, -, -, -, hnames⟩ := Config.validate_eq_ok.1 hvalid
  exact hnames.sublist (List.filter_sublist.map _)

end Resolved

/-! ### How it is shown -/

/-- The array of the records of documents. -/
def recordsToJson (entries : List DocumentEntry) : Json :=
  .arr (entries.map fun d => (Record.document d).toJson)

/-- The console after a selection: names or records, and a warning when there is nothing to show. -/
def selection (c : Config) (m : Model) (model : String) (best json : Bool) : Console where
  out :=
    if json then [(recordsToJson (c.chosen m best)).pretty] else (c.chosen m best).map (·.name)
  notes :=
    if (c.applying m).isEmpty then
      [⟨.warning, "no analysis document applies to '" ++ model ++ "'"⟩]
    else []

theorem selectReport_eq (hresolve : c.resolve = .ok r) (model : String) (best json : Bool) :
    selectReport model best json r m = selection c m model best json := by
  have hchosen := map_describe_selected hresolve m best
  have hnames : (selected r m best).map Document.name = (c.chosen m best).map (·.name) := by
    rw [← hchosen, List.map_map]
    rfl
  have hrecords : Json.arr ((selected r m best).map fun d => (Record.document d.describe).toJson) =
      recordsToJson (c.chosen m best) := by
    rw [recordsToJson, ← hchosen, List.map_map]
    rfl
  have hnone : (selected r m best).isEmpty = (c.applying m).isEmpty := by
    rw [← List.isEmpty_map (f := Document.describe), hchosen, Config.chosen]
    cases best <;> cases c.applying m <;> rfl
  simp only [selectReport, selection, hnames, hrecords, hnone]

/-- The records are read back when the values of the properties have whole numbers only and the
array is not too deep. -/
theorem read?_recordsToJson {entries : List DocumentEntry}
    (hwhole : ∀ d ∈ entries, (Record.document d).WholeNumbers)
    (hdepth : (recordsToJson entries).depth ≤ Json.Reader.depthLimit) :
    (Json.Reader.read? (recordsToJson entries).pretty).bind (Datum.list? Record.ofDatum?) =
      some (entries.map .document) := by
  have hkept : ∀ d ∈ entries, (Record.document d).Kept := fun d hd => (hwhole d hd).kept
  have harray : (recordsToJson entries).Whole :=
    .arr (List.forall_mem_map.2 fun d hd => Record.whole_toJson (hkept d hd))
  have hitems : ∀ item ∈ entries.map Record.document,
      Record.ofDatum? (Datum.ofJson item.toJson) = some item :=
    List.forall_mem_map.2 fun d hd => Record.ofDatum?_toJson (hkept d hd)
  have hrecords : recordsToJson entries =
      .arr ((entries.map Record.document).map Record.toJson) := by
    rw [recordsToJson, List.map_map]
    rfl
  rw [Json.read?_pretty harray hdepth, Option.bind_some, hrecords, Datum.list?_ofJson hitems]

/-! ### Runs -/

theorem propertiesInOrder_of_loadConfig {s : Surroundings} {path : Option String}
    (h : loadConfig s path = .ok c) : ∀ d ∈ c.documents, Config.PropertiesInOrder d := by
  cases path with
  | none => exact Config.propertiesInOrder_of_load (mapError_eq_ok.1 h)
  | some path => exact Config.propertiesInOrder_of_loadFrom (mapError_eq_ok.1 h)

/-- The invocation with a selection to run. -/
def Invocation.selecting (i : Invocation) (model : String) (best json : Bool) : Invocation :=
  { i with action := .select model best json }

section Runs

variable {model : String} (hresolve : c.resolve = .ok r) (hmodel : r.models.get? model = some m)
include hresolve hmodel

theorem resolveConfig_bind_gatherFrom (s : Surroundings) (best json : Bool) :
    (resolveConfig c >>= (gatherFrom s · (.select model best json))) =
      .ok (selection c m model best json) := by
  refine bind_eq_ok.2 ⟨r, resolveConfig_of_resolve hresolve, ?_⟩
  rw [gatherFrom, hmodel, ← selectReport_eq hresolve]
  rfl

theorem run_select (quiet best json : Bool) (console : Console) :
    (select quiet model best json c).run console =
      (.ok (), console.write quiet (selection c m model best json)) := by
  -- a selection looks at nothing around it
  let nowhere : Surroundings := ⟨"", fun _ => .nothing, []⟩
  have hwrites := Writes.perform nowhere quiet (.select model best json) c console
  rw [resolveConfig_bind_gatherFrom hresolve hmodel] at hwrites
  exact hwrites

theorem execute_selecting {s : Surroundings} {i : Invocation}
    (hload : loadConfig s i.config = .ok c) (best json : Bool) :
    execute s (i.selecting model best json) =
      ⟨0, Console.empty.write i.quiet (selection c m model best json)⟩ := by
  have hgather : gather s i.config (.select model best json) =
      .ok (selection c m model best json) :=
    bind_eq_ok.2 ⟨c, hload, resolveConfig_bind_gatherFrom hresolve hmodel s best json⟩
  rw [execute_eq, Invocation.selecting, hgather]
  rfl

end Runs

/-- What is to be said of the selections for a model. Each run shows the chosen documents; their
names are distinct, and the first of them is the best one. Documents are built as they are
configured, and the records of a run are read back when the values of the properties have whole
numbers only and the array is not too deep. -/
structure Selects (c : Config) (r : Resolved) (m : Model) (model : String) : Prop where
  runs : ∀ quiet best json console, (select quiet model best json c).run console =
    (.ok (), console.write quiet (selection c m model best json))
  nodup_names : ((c.applying m).map (·.name)).Nodup
  best_eq : (Document.best? r.documents m).toList.map Document.describe = c.chosen m true
  builds : ∀ d ∈ c.documents, ∃ doc, d.build = .ok doc ∧ doc.describe = d
  reads : ∀ best, (∀ d ∈ c.chosen m best, (Record.document d).WholeNumbers) →
    (recordsToJson (c.chosen m best)).depth ≤ 127 →
    (Json.Reader.read? (recordsToJson (c.chosen m best)).pretty).bind
      (Datum.list? Record.ofDatum?) = some ((c.chosen m best).map .document)

/-- For every configuration that resolves and every configured model, all runs are about the same
documents. From the command line the configuration is loaded first, and then the properties are in
order already, so that whole numbers are all that a record needs to be read back. -/
theorem select_runs_agree {c : Config} {r : Resolved} (hresolve : c.resolve = .ok r)
    {entry : Config.ModelEntry} (hentry : entry ∈ c.models) :
    ∃ m, Config.buildModel r.catalog entry = .ok m ∧ r.models.get? entry.id = some m ∧
      Selects c r m entry.id ∧
      ∀ (s : Surroundings) (i : Invocation), loadConfig s i.config = .ok c →
        (∀ d ∈ c.documents, Config.PropertiesInOrder d) ∧
        ∀ best json, execute s (i.selecting entry.id best json) =
          ⟨0, Console.empty.write i.quiet (selection c m entry.id best json)⟩ := by
  obtain ⟨-, -, -, -, hmodels, -⟩ := Config.resolve_eq_ok.1 hresolve
  obtain ⟨m, hbuild, hmodel⟩ := Config.exists_model_of_mem hmodels hentry
  refine ⟨m, hbuild, hmodel, ?_, fun s i hload => ?_⟩
  · constructor
    case runs => exact run_select hresolve hmodel
    case nodup_names => exact nodup_names_applying hresolve m
    case best_eq => exact map_describe_best? hresolve m
    case builds => exact fun d hd => exists_build_of_mem hresolve hd
    case reads => exact fun best => read?_recordsToJson
  · exact ⟨propertiesInOrder_of_loadConfig hload, execute_selecting hresolve hmodel hload⟩

/-- A model and two documents, of which the second one does not apply to it. -/
def documentsText : String :=
  "models = [\x7b id = \"code\" \x7d]\n" ++
    "documents = [" ++
    "\x7b name = \"notes\", matcher = \"any\", properties = \x7b depth = 3 \x7d \x7d, " ++
    "\x7b name = \"other\", matcher = \x7b model = \"data\" \x7d \x7d]"

def documentsSurroundings : Surroundings := ⟨"/home", fun _ => .text documentsText, []⟩

def notesDocument : DocumentEntry := ⟨"notes", .any, PropertyMap.put ∅ "depth" (.int 3)⟩

def otherDocument : DocumentEntry := ⟨"other", .model "data", ∅⟩

/-- The text is read as one model and two documents. A property may be a float, so that equality of
documents is not decided but read off a match. -/
theorem loadConfig_documents : ((loadConfig documentsSurroundings none).toOption.any fun c =>
    match c.models, c.documents with
    | [model], [⟨notes, .any, ⟨[(key, .int depth)], _⟩⟩, ⟨other, .model id, ⟨[], _⟩⟩] =>
      c.resolve.toOption.isSome && model = ⟨"code", [], []⟩ &&
        (notes, key, depth, other, id) = ("notes", "depth", 3, "other", "data")
    | _, _ => false) = true := by
  decide +kernel

theorem exists_config_documents : ∃ c r, loadConfig documentsSurroundings none = .ok c ∧
    c.resolve = .ok r ∧ c.models = [⟨"code", [], []⟩] ∧
      c.documents = [notesDocument, otherDocument] := by
  obtain ⟨c, hc, hfound⟩ := (Option.any_eq_true _ _).1 loadConfig_documents
  split at hfound
  · next hmodels hdocuments =>
    simp only [Bool.and_eq_true, decide_eq_true_eq, Prod.mk.injEq] at hfound
    obtain ⟨⟨hresolves, rfl⟩, rfl, rfl, rfl, rfl, rfl⟩ := hfound
    obtain ⟨r, hr⟩ := Option.isSome_iff_exists.1 hresolves
    exact ⟨c, r, toOption_eq_some.1 hc, toOption_eq_some.1 hr, hmodels, hdocuments⟩
  · cases hfound

theorem select_runs_agree_sample :
    let i : Invocation := ⟨false, false, false, none, .check false⟩
    ∃ c r m, loadConfig documentsSurroundings i.config = .ok c ∧ c.resolve = .ok r ∧
      c.models = [⟨"code", [], []⟩] ∧ c.documents = [notesDocument, otherDocument] ∧
      r.models.get? "code" = some m ∧ c.chosen m false = [notesDocument] ∧
      (execute documentsSurroundings (i.selecting "code" false false)).console.out = ["notes"] ∧
      (Record.document notesDocument).WholeNumbers ∧
      (Json.Reader.read? (recordsToJson [notesDocument]).pretty).bind
        (Datum.list? Record.ofDatum?) = some [.document notesDocument] := by
  intro i
  obtain ⟨c, r, hc, hresolve, hmodels, hdocuments⟩ := exists_config_documents
  have hload : loadConfig documentsSurroundings i.config = .ok c := hc
  have hentry : ⟨"code", [], []⟩ ∈ c.models := hmodels ▸ List.mem_singleton_self _
  obtain ⟨m, -, hm, hselects, hruns⟩ := select_runs_agree hresolve hentry
  have hid : m.id = "code" := (Listing.find?_eq_some_iff.1 hm).2
  have hother : otherDocument.matcher.appliesTo m = false := by
    rw [otherDocument, Applicability.appliesTo, hid]
    rfl
  have hchosen : c.chosen m false = [notesDocument] := by
    rw [Config.chosen, Config.applying, hdocuments]
    exact congrArg (notesDocument :: ·) (List.filter_cons_of_neg (by simp [hother]))
  have hwhole : (Record.document notesDocument).WholeNumbers := by
    intro e he
    obtain rfl : e = ("depth", .int 3) := List.mem_singleton.1 he
    have hwritable : Json.isWritable 3 = true := by decide
    exact ⟨hwritable, .int hwritable⟩
  have hread := hselects.reads false
  rw [hchosen] at hread
  refine ⟨c, r, m, hload, hresolve, hmodels, hdocuments, hm, hchosen, ?_, hwhole,
    hread (List.forall_mem_singleton.2 hwhole) (by decide)⟩
  rw [(hruns documentsSurroundings i hload).2, selection, hchosen]
  rfl

end Command

end RelGraph
