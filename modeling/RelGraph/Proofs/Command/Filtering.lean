import RelGraph.Proofs.Command.Session
import RelGraph.Proofs.Config.Building
import RelGraph.Proofs.Config.Validation
import RelGraph.Proofs.Datum
import RelGraph.Proofs.Graph.Snapshots
import RelGraph.Proofs.Json.Values
import RelGraph.Proofs.Pipeline

/-! Filtering from the command line. Whether the nodes are tested in parallel, and whether they are
shown as lines, as an array or with an explanation, every run is about the same list: the nodes that
every stage of the pipeline includes, in the order of the graph. -/

namespace RelGraph.Command

open Config (Resolved exists_pipeline_of_mem_filters)
open RelGraph.Outcome

/-! ### Explanations -/

/-- The line tells whether every stage includes the node, and otherwise names the first one that
does not. -/
inductive Explains (p : Pipeline) (g : Graph) (id : String) : String → Prop
  | included (h : ∀ s ∈ p.stages, s.includes g id = true) : Explains p g id (id ++ "\tincluded")
  | excluded {place : Nat} {stage : Stage} (hstage : p.stages[place]? = some stage)
    (hfirst : FirstRejected (fun s => s.includes g id = true) p.stages place) :
    Explains p g id
      (id ++ "\texcluded by stage " ++ toString place ++ " (" ++ stage.label ++ ")")

variable {p : Pipeline} {g : Graph} {id : String}

theorem explains_explanation (p : Pipeline) (g : Graph) (id : String) :
    Explains p g id (explanation p g id) := by
  rw [explanation]
  rcases p.evaluate_cases g id with ⟨place, h⟩ | h
  · have hfirst := Pipeline.evaluate_eq_rejected_iff.1 h
    obtain ⟨stage, hstage, -⟩ := hfirst.1
    have hlabel : (p.stages[place]?.map Stage.label).getD "" = stage.label := by
      rw [hstage]
      rfl
    rw [h]
    simp only
    rw [hlabel]
    exact .excluded hstage hfirst
  · rw [h]
    exact .included (Pipeline.evaluate_eq_included_iff.1 h)

theorem append_excluded_ne (id place label : String) :
    id ++ "\texcluded by stage " ++ place ++ " (" ++ label ++ ")" ≠ id ++ "\tincluded" := by
  intro h
  have hchars := congrArg String.toList h
  simp only [String.toList_append, List.append_assoc] at hchars
  have htail := List.append_cancel_left hchars
  -- the first letters of the two words differ
  have hletter := congrArg (·[1]?) htail
  simp at hletter

/-- The word `included` ends the lines of the nodes that pass, and of no others. -/
theorem Explains.eq_included_iff {line : String} (h : Explains p g id line) :
    line = id ++ "\tincluded" ↔ ∀ s ∈ p.stages, s.includes g id = true := by
  cases h with
  | included hall => exact ⟨fun _ => hall, fun _ => rfl⟩
  | @excluded place stage hstage hfirst =>
    refine ⟨fun h => absurd h (append_excluded_ne id _ _), fun hall => ?_⟩
    obtain ⟨rejecting, hat, hrejects⟩ := hfirst.1
    exact absurd (hall rejecting (List.mem_of_getElem? hat)) hrejects

/-- The nodes that are marked as included. -/
def marked (ids lines : List String) : List String :=
  ((ids.zip lines).filter fun e => e.2 == e.1 ++ "\tincluded").map Prod.fst

theorem marked_eq_filter {ids lines : List String}
    (h : List.Forall₂ (Explains p g) ids lines) :
    marked ids lines = ids.filter fun id => p.stages.all (·.includes g id) := by
  induction h with
  | nil => rfl
  | @cons id line ids lines hline _ ih =>
    have hmark : (line == id ++ "\tincluded") = p.stages.all (·.includes g id) := by
      rw [Bool.eq_iff_iff, beq_iff_eq, hline.eq_included_iff, List.all_eq_true]
    have hcons : marked (id :: ids) (line :: lines) =
        if line == id ++ "\tincluded" then id :: marked ids lines else marked ids lines := by
      rw [marked, List.zip_cons_cons, List.filter_cons]
      split <;> rfl
    rw [hcons, hmark, ih, List.filter_cons]

/-! ### Reports -/

/-- The status of a run that is not quiet: how many nodes pass, and how many there are. -/
def statusNotes (quiet : Bool) (passing nodes : Nat) (pipeline : String) : List Note :=
  if quiet then []
  else [⟨.info, toString passing ++ " of " ++ toString nodes ++ " nodes pass '" ++ pipeline ++ "'"⟩]

theorem statusNotes_eq (quiet : Bool) (p : Pipeline) (g : Graph) (ids : List String) :
    (if quiet then [] else [passNote p g ids]) =
      statusNotes quiet ids.length g.nodes.length p.name := by
  rw [passNote, Graph.ids, List.length_map]
  rfl

theorem kept_eq_passing (p : Pipeline) (g : Graph) (parallel : Bool) :
    kept p g parallel = p.passing g := by
  rw [kept, Pipeline.filterInParallel_eq_filter, ite_self, Pipeline.filter_eq_passing]

theorem read?_strings (l : List String) :
    (Json.Reader.read? (Json.strings l).pretty).bind Datum.strings? = some l := by
  have hdepth : (Json.strings l).depth ≤ 1 := Json.depth_arr_map_le fun _ _ => Nat.le_refl 0
  rw [Json.read?_pretty (Json.whole_strings l) (Nat.le_trans hdepth (by decide)), Option.bind_some,
    Datum.strings?_ofJson]

/-- The invocation with a filter to run. -/
def Invocation.filtering (i : Invocation) (pipeline graph : String) (parallel explain json : Bool) :
    Invocation :=
  { i with action := .filter pipeline graph parallel explain json }

theorem execute_filtering {s : Surroundings} {i : Invocation} {c : Config} {r : Resolved}
    {graph pipeline : String} (hload : loadConfig s i.config = .ok c) (hresolve : c.resolve = .ok r)
    (hpipeline : r.pipeline? pipeline = some p) (hgraph : loadGraph s graph r.catalog = .ok g)
    (parallel explain json : Bool) :
    execute s (i.filtering pipeline graph parallel explain json) =
      let report := filterReport (parallel || r.settings.parallel) explain json p g
      ⟨0, ⟨report.out, if i.quiet then [] else report.notes⟩⟩ := by
  have hgather : gather s i.config (.filter pipeline graph parallel explain json) =
      .ok (filterReport (parallel || r.settings.parallel) explain json p g) := by
    refine bind_eq_ok.2 ⟨c, hload, bind_eq_ok.2 ⟨r, resolveConfig_of_resolve hresolve, ?_⟩⟩
    simp only [gatherFrom, hpipeline]
    exact bind_eq_ok.2 ⟨g, hgraph, rfl⟩
  rw [execute_eq, Invocation.filtering, hgather]

/-- All runs of a configured pipeline over a graph are about one list, the nodes that every stage
includes in the order of the graph, whether they are tested in parallel or not. A plain run prints
this list and a run with `--json` prints it as an array; both count it against all nodes. A run with
`--explain` has one line for each node, in order, that tells the first stage that rejects it; the
nodes marked as included are this list again. -/
theorem filter_runs_agree {s : Surroundings} {i : Invocation} {c : Config} {r : Resolved}
    {f : Config.FilterEntry} {graph : String} {g : Graph}
    (hload : loadConfig s i.config = .ok c) (hresolve : c.resolve = .ok r) (hf : f ∈ c.filters)
    (hgraph : loadGraph s graph r.catalog = .ok g) :
    ∃ p, Config.buildPipeline r.matchers f = .ok p ∧ r.pipeline? f.name = some p ∧ g.ids.Nodup ∧
      ∀ parallel,
        execute s (i.filtering f.name graph parallel false false) =
          ⟨0, ⟨p.passing g,
            statusNotes i.quiet (p.passing g).length g.nodes.length f.name⟩⟩ ∧
        (∃ text, execute s (i.filtering f.name graph parallel false true) =
            ⟨0, ⟨[text], statusNotes i.quiet (p.passing g).length g.nodes.length f.name⟩⟩ ∧
          (Json.Reader.read? text).bind Datum.strings? = some (p.passing g)) ∧
        ∀ json, ∃ lines,
          execute s (i.filtering f.name graph parallel true json) = ⟨0, ⟨lines, []⟩⟩ ∧
          List.Forall₂ (Explains p g) g.ids lines ∧ marked g.ids lines = p.passing g := by
  obtain ⟨p, hbuild, hname, hpipeline⟩ := exists_pipeline_of_mem_filters hresolve hf
  have hexecute := execute_filtering hload hresolve hpipeline hgraph
  have hkept : ∀ parallel json, execute s (i.filtering f.name graph parallel false json) =
      ⟨0, ⟨if json then [(Json.strings (p.passing g)).pretty] else p.passing g,
        statusNotes i.quiet (p.passing g).length g.nodes.length f.name⟩⟩ := by
    intro parallel json
    rw [hexecute, ← hname, ← statusNotes_eq]
    simp only [filterReport, kept_eq_passing]
    rfl
  refine ⟨p, hbuild, hpipeline, g.nodup_ids, fun parallel => ⟨?_, ?_, fun json => ?_⟩⟩
  · exact hkept parallel false
  · exact ⟨(Json.strings (p.passing g)).pretty, hkept parallel true, read?_strings _⟩
  · have hlines : List.Forall₂ (Explains p g) g.ids (g.ids.map (explanation p g)) := by
      rw [List.forall₂_map_right_iff]
      exact List.forall₂_same.2 fun id _ => explains_explanation p g id
    refine ⟨g.ids.map (explanation p g), ?_, hlines, marked_eq_filter hlines⟩
    rw [hexecute]
    cases i.quiet <;> rfl

/-- A filter of two stages. -/
def sampleConfigText : String :=
  "[[filters]]\nname = \"core\"\nstages = [" ++
    "\x7b kind = \"members\", ids = [\"a\", \"b\"] \x7d, " ++
    "\x7b kind = \"members\", ids = [\"b\"] \x7d]"

/-- Two nodes that are not in the order of their names. -/
def sampleGraphText : String :=
  "\x7b\"nodes\": [" ++
    "\x7b\"id\": \"b\", \"kind\": \"module\", \"name\": \"b\"\x7d, " ++
    "\x7b\"id\": \"a\", \"kind\": \"function\", \"name\": \"a\"\x7d]\x7d"

def sampleSurroundings : Surroundings where
  home := "/home"
  files := fun path => .text (if path = "graph.json" then sampleGraphText else sampleConfigText)
  environment := []

theorem exists_config_sample : ∃ c r f, loadConfig sampleSurroundings none = .ok c ∧
    c.resolve = .ok r ∧ f ∈ c.filters ∧ f.name = "core" := by
  have hfound : ((loadConfig sampleSurroundings none).toOption.bind fun c =>
      c.resolve.toOption.bind fun _ => c.filters.head?.map (·.name)) = some "core" := by
    decide +kernel
  obtain ⟨c, hc, hfound⟩ := Option.bind_eq_some_iff.1 hfound
  obtain ⟨r, hr, hfound⟩ := Option.bind_eq_some_iff.1 hfound
  obtain ⟨f, hf, hname⟩ := Option.map_eq_some_iff.1 hfound
  exact ⟨c, r, f, toOption_eq_some.1 hc, toOption_eq_some.1 hr, List.mem_of_mem_head? hf, hname⟩

theorem exists_graph_sample (catalog : Catalog) :
    ∃ g, loadGraph sampleSurroundings "graph.json" catalog = .ok g ∧ g.ids = ["b", "a"] := by
  have htext : Snapshot.ofText sampleGraphText =
      .ok ⟨[⟨"b", "module", "b"⟩, ⟨"a", "function", "a"⟩], []⟩ :=
    toOption_eq_some.1 (by decide +kernel)
  have hload : loadGraph sampleSurroundings "graph.json" catalog =
      ((Snapshot.ofText sampleGraphText).bind (·.resolve catalog)).mapError
        (.invalidGraph "graph.json") := rfl
  rw [htext] at hload
  refine ⟨_, hload, ?_⟩
  exact congrArg (List.map Node.id) (Graph.nodes_foldl_addNode ∅ (by decide) (by decide))

theorem filter_runs_agree_sample :
    let i : Invocation := ⟨false, false, false, none, .check false⟩
    ∃ c r f g, loadConfig sampleSurroundings none = .ok c ∧ c.resolve = .ok r ∧ f ∈ c.filters ∧
      f.name = "core" ∧ loadGraph sampleSurroundings "graph.json" r.catalog = .ok g ∧
      g.ids = ["b", "a"] ∧ ∃ p, r.pipeline? "core" = some p ∧
        (execute sampleSurroundings
          (i.filtering "core" "graph.json" true false false)).console.out = p.passing g ∧
        marked ["b", "a"] (execute sampleSurroundings
          (i.filtering "core" "graph.json" false true false)).console.out = p.passing g := by
  intro i
  obtain ⟨c, r, f, hc, hr, hf, hname⟩ := exists_config_sample
  obtain ⟨g, hg, hids⟩ := exists_graph_sample r.catalog
  have hload : loadConfig sampleSurroundings i.config = .ok c := hc
  obtain ⟨p, -, hp, -, hruns⟩ := filter_runs_agree hload hr hf hg
  rw [hname, hids] at hruns
  obtain ⟨hplain, -, -⟩ := hruns true
  obtain ⟨-, -, hexplain⟩ := hruns false
  obtain ⟨lines, hlines, -, hmarked⟩ := hexplain false
  refine ⟨c, r, f, g, hc, hr, hf, hname, hg, hids, p, hname ▸ hp, ?_, ?_⟩
  · rw [hplain]
  · rw [hlines]
    exact hmarked

end RelGraph.Command
