import RelGraph.Command.Invocation
import RelGraph.Proofs.Outcome

/-! Command lines with one flag more. Reading a level looks at what was given before only to refuse
an option that is given twice. So where a flag is put in between, the rest is read as it was, and in
the end the reading has the flag and is otherwise the same. This is shown here of the flag `--quiet`
and carried on to whole command lines. -/

namespace RelGraph.Command

open RelGraph.Outcome

namespace Reading

/-! ### Readings with the flag -/

theorem has_eq_isSome (r : Reading) (long : String) : r.has long = (r.value? long).isSome := by
  rw [has, value?]
  induction r.given with
  | nil => rfl
  | cons entry rest ih =>
    obtain ⟨name, value⟩ := entry
    rw [List.any_cons, List.lookup_cons, ih]
    by_cases h : name = long
    · simp [h]
    · have hname : (name == long) = false := by simpa using h
      have hlong : (long == name) = false := by simpa using Ne.symm h
      rw [hname, hlong, Bool.false_or]

/-- The second reading has the flag `--quiet` and is otherwise the first one. -/
structure Quieter (r r' : Reading) : Prop where
  value?_eq : ∀ long, long ≠ "quiet" → r'.value? long = r.value? long
  has_quiet : r'.has "quiet" = true
  operands_eq : r'.operands = r.operands
  pending_eq : r'.pending = r.pending
  escaped_eq : r'.escaped = r.escaped

theorem Quieter.has_eq {r r' : Reading} (h : Quieter r r') {long : String} (hne : long ≠ "quiet") :
    r'.has long = r.has long := by
  rw [has_eq_isSome, has_eq_isSome, h.value?_eq long hne]

/-- A step of reading that forgets nothing and goes the same way when the flag is there, unless it
gives the flag itself. -/
structure Steady (f : Reading → Except Refusal Reading) : Prop where
  given : ∀ r u, f r = .ok u → r.given <+: u.given
  escaped : ∀ r u, f r = .ok u → u.escaped = r.escaped
  quieter : ∀ r r' u, Quieter r r' → f r = .ok u → u.has "quiet" = false →
    ∃ u', f r' = .ok u' ∧ Quieter u u'

theorem has_of_given {r u : Reading} (h : r.given <+: u.given) {long : String}
    (hu : u.has long = false) : r.has long = false := by
  obtain ⟨more, hmore⟩ := h
  rw [has, ← hmore, List.any_append, Bool.or_eq_false_iff] at hu
  exact hu.1

theorem take_eq_ok {r u : Reading} {o : OptionSpec} {value : String} :
    r.take o value = .ok u ↔ r.has o.long = false ∧
      (o.kind == .value false && value.isEmpty) = false ∧
        u = { r with given := r.given ++ [(o.long, value)] } := by
  rw [take]
  split
  · next hhas => simp [hhas]
  · next hhas =>
    split
    · next hvalue => simp [hvalue]
    · next hvalue => simp [hhas, hvalue, eq_comm]

namespace Steady

theorem error (refusal : Refusal) : Steady fun _ => .error refusal where
  given := by simp
  escaped := by simp
  quieter := by simp

/-- To change what is pending or to take an operand is a steady step. -/
theorem update {change : Reading → Reading} (hgiven : ∀ r, (change r).given = r.given)
    (hescaped : ∀ r, (change r).escaped = r.escaped)
    (hquieter : ∀ r r', Quieter r r' → Quieter (change r) (change r')) :
    Steady fun r => .ok (change r) where
  given := by
    rintro r _ ⟨rfl⟩
    exact hgiven r ▸ List.prefix_rfl
  escaped := by
    rintro r _ ⟨rfl⟩
    exact hescaped r
  quieter := by
    rintro r r' _ h ⟨rfl⟩ -
    exact ⟨change r', rfl, hquieter r r' h⟩

theorem bind {f g : Reading → Except Refusal Reading} (hf : Steady f) (hg : Steady g) :
    Steady fun r => f r >>= g where
  given := by
    intro r w h
    obtain ⟨u, hu, hw⟩ := bind_eq_ok.1 h
    exact (hf.given r u hu).trans (hg.given u w hw)
  escaped := by
    intro r w h
    obtain ⟨u, hu, hw⟩ := bind_eq_ok.1 h
    exact (hg.escaped u w hw).trans (hf.escaped r u hu)
  quieter := by
    intro r r' w hr h hquiet
    obtain ⟨u, hu, hw⟩ := bind_eq_ok.1 h
    obtain ⟨u', hu', huu'⟩ := hf.quieter r r' u hr hu (has_of_given (hg.given u w hw) hquiet)
    obtain ⟨w', hw', hww'⟩ := hg.quieter u u' w huu' hw hquiet
    exact ⟨w', bind_eq_ok.2 ⟨u', hu', hw'⟩, hww'⟩

/-- A step is steady that does a steady one, chosen by what the flag does not change. -/
theorem of_choice {f : Reading → Except Refusal Reading}
    (h : ∀ r, ∃ g, Steady g ∧ f r = g r ∧ ∀ r', Quieter r r' → f r' = g r') : Steady f where
  given := by
    intro r u hu
    obtain ⟨g, hg, hr, -⟩ := h r
    exact hg.given r u (hr ▸ hu)
  escaped := by
    intro r u hu
    obtain ⟨g, hg, hr, -⟩ := h r
    exact hg.escaped r u (hr ▸ hu)
  quieter := by
    intro r r' u hrr' hu hquiet
    obtain ⟨g, hg, hr, hr'⟩ := h r
    rw [hr' r' hrr']
    exact hg.quieter r r' u hrr' (hr ▸ hu) hquiet

theorem take (o : OptionSpec) (value : String) : Steady (·.take o value) where
  given := by
    intro r u h
    obtain ⟨-, -, rfl⟩ := take_eq_ok.1 h
    exact List.prefix_append _ _
  escaped := by
    intro r u h
    obtain ⟨-, -, rfl⟩ := take_eq_ok.1 h
    rfl
  quieter := by
    intro r r' u hr h hquiet
    obtain ⟨hnew, hvalue, rfl⟩ := take_eq_ok.1 h
    -- an option that is new for the one reading may be given in the other one only if it is the flag
    have hne : o.long ≠ "quiet" := by
      intro he
      simp [has, he] at hquiet
    have hnew' : r'.has o.long = false := (hr.has_eq hne).trans hnew
    refine ⟨_, take_eq_ok.2 ⟨hnew', hvalue, rfl⟩, ?_, ?_, hr.operands_eq, hr.pending_eq,
      hr.escaped_eq⟩
    · intro long hlong
      have hold := hr.value?_eq long hlong
      rw [value?] at hold ⊢
      rw [List.lookup_append, hold, value?, value?, List.lookup_append]
    · rw [has, List.any_append, Bool.or_eq_true]
      exact .inl hr.has_quiet

theorem ok : Steady fun r => .ok r := update (fun _ => rfl) (fun _ => rfl) fun _ _ => id

theorem setPending (pending : Option (OptionSpec × Option String)) :
    Steady fun r => .ok { r with pending } := by
  refine update (fun _ => rfl) (fun _ => rfl) fun r r' hr => ?_
  exact ⟨hr.value?_eq, hr.has_quiet, hr.operands_eq, rfl, hr.escaped_eq⟩

theorem addOperand (arg : String) :
    Steady fun r => .ok { r with operands := r.operands ++ [arg] } := by
  refine update (fun _ => rfl) (fun _ => rfl) fun r r' hr => ?_
  exact ⟨hr.value?_eq, hr.has_quiet, congrArg (· ++ [arg]) hr.operands_eq, hr.pending_eq,
    hr.escaped_eq⟩

theorem settle : Steady Reading.settle := by
  refine of_choice fun r => ?_
  match hp : r.pending with
  | none =>
    refine ⟨_, ok, ?_, fun r' hr => ?_⟩
    · rw [Reading.settle, hp]
    · rw [Reading.settle, hr.pending_eq, hp]
  | some (o, none) =>
    refine ⟨_, error .invalidValue, ?_, fun r' hr => ?_⟩
    · rw [Reading.settle, hp]
    · rw [Reading.settle, hr.pending_eq, hp]
  | some (o, some value) =>
    refine ⟨_, (setPending none).bind (take o value), ?_, fun r' hr => ?_⟩
    · rw [Reading.settle, hp]
      rfl
    · rw [Reading.settle, hr.pending_eq, hp]
      rfl

theorem meet (o : OptionSpec) : Steady (·.meet o) := by
  refine settle.bind ?_
  cases o.kind with
  | flag => exact take o ""
  | value _ => exact setPending (some (o, none))
  | help => exact error .help
  | version => exact error .version

theorem meetWith (o : OptionSpec) (value : String) : Steady (·.meetWith o value) := by
  simp only [Reading.meetWith]
  cases o.kind with
  | value _ => exact settle.bind (take o value)
  | flag | help | version => exact error .surplusValue

theorem meetOperand (level : Level) (arg : String) : Steady (·.meetOperand level arg) := by
  refine of_choice fun r => ?_
  by_cases hroom : level.operands.room r.operands.length = true
  · refine ⟨_, settle.bind (addOperand arg), ?_, fun r' hr => ?_⟩
    · simp only [Reading.meetOperand, if_pos hroom]
      rfl
    · simp only [Reading.meetOperand, hr.operands_eq, if_pos hroom]
      rfl
  · refine ⟨_, error (if level.subcommands.isEmpty || (r.escaped && level.subcommands.contains arg)
      then .unknownArgument else .unknownSubcommand), ?_, fun r' hr => ?_⟩
    · simp only [Reading.meetOperand, if_neg hroom, apply_ite Except.error]
    · simp only [Reading.meetOperand, hr.operands_eq, hr.escaped_eq, if_neg hroom,
        apply_ite Except.error]

theorem meetLetters (level : Level) (letters : List Char) :
    Steady fun r => Reading.meetLetters level r letters := by
  induction letters with
  | nil => exact ok
  | cons c rest ih =>
    simp only [Reading.meetLetters]
    cases level.options.find? (·.short == some c) with
    | none => exact error .unknownArgument
    | some o =>
      simp only
      split
      · exact meetWith o _
      · exact meetWith o _
      · exact (meet o).bind ih

theorem meetLong (level : Level) (cs : List Char) :
    Steady fun r => Reading.meetLong level r cs := by
  simp only [Reading.meetLong]
  cases level.options.find? (·.long == String.ofList (cs.takeWhile (· != '='))) with
  | none => exact error .unknownArgument
  | some o =>
    cases cs.dropWhile (· != '=') with
    | nil => exact meet o
    | cons _ value => exact meetWith o _

end Steady

/-- To take the flag makes a reading quieter. -/
theorem quieter_take (r : Reading) :
    Quieter r { r with given := r.given ++ [("quiet", "")] } where
  value?_eq := by
    intro long hlong
    have hnone : List.lookup long [("quiet", "")] = none := by
      rw [List.lookup_cons, beq_eq_false_iff_ne.2 hlong]
      rfl
    rw [value?, List.lookup_append, hnone, Option.or_none, value?]
  has_quiet := by simp [has]
  operands_eq := rfl
  pending_eq := rfl
  escaped_eq := rfl

/-! ### Arguments -/

/-- An argument that is no option is the value that is waited for, or else an operand. -/
def meetBare (level : Level) (arg : String) (r : Reading) : Except Refusal Reading :=
  match r.pending with
  | some (o, none) => .ok { r with pending := some (o, some arg) }
  | _ => r.meetOperand level arg

/-- What an argument is, unless it is two dashes, can be told before it is met. -/
theorem meetArgument_cases {arg : String} (harg : arg ≠ "--") :
    (∃ cs, ∀ level r, r.escaped = false → meetArgument level r arg = meetLong level r cs) ∨
    (∃ c cs, ∀ level r, r.escaped = false →
      meetArgument level r arg = meetLetters level r (c :: cs)) ∨
    ∀ level r, r.escaped = false → meetArgument level r arg = meetBare level arg r := by
  have hdashes : arg.toList ≠ ['-', '-'] := fun h => harg (String.toList_inj.1 h)
  by_cases hlong : ∃ cs, arg.toList = '-' :: '-' :: cs
  · obtain ⟨cs, hcs⟩ := hlong
    refine .inl ⟨cs, fun level r hr => ?_⟩
    rw [meetArgument, if_neg (by simp [hr])]
    split <;> simp_all
  · by_cases hletters : ∃ c cs, arg.toList = '-' :: c :: cs
    · obtain ⟨c, cs, hcs⟩ := hletters
      have hc : c ≠ '-' := fun hc => hlong ⟨cs, hc ▸ hcs⟩
      refine .inr (.inl ⟨c, cs, fun level r hr => ?_⟩)
      rw [meetArgument, if_neg (by simp [hr]), hcs]
      split <;> simp_all
    · refine .inr (.inr fun level r hr => ?_)
      rw [meetArgument, if_neg (by simp [hr])]
      split
      · next h => exact absurd h hdashes
      · next cs _ h => exact absurd ⟨cs, h⟩ hlong
      · next c cs _ _ h => exact absurd ⟨c, cs, h⟩ hletters
      · rfl

theorem meetArgument_of_escaped {level : Level} {r : Reading} (hr : r.escaped = true)
    (arg : String) : meetArgument level r arg = r.meetOperand level arg := by
  rw [meetArgument, if_pos hr]

theorem meetArgument_dashes {level : Level} {r : Reading} (hr : r.escaped = false) :
    meetArgument level r "--" = .ok { r with escaped := true } := by
  rw [meetArgument, hr, if_neg Bool.false_ne_true]
  rfl

namespace Steady

theorem meetBare (level : Level) (arg : String) : Steady (meetBare level arg) := by
  refine of_choice fun r => ?_
  match hp : r.pending with
  | some (o, none) =>
    refine ⟨_, setPending (some (o, some arg)), ?_, fun r' hr => ?_⟩
    · rw [Reading.meetBare, hp]
    · rw [Reading.meetBare, hr.pending_eq, hp]
  | none | some (o, some value) =>
    refine ⟨_, meetOperand level arg, ?_, fun r' hr => ?_⟩
    · rw [Reading.meetBare, hp]
    · rw [Reading.meetBare, hr.pending_eq, hp]

/-- To meet any argument but two dashes is a steady step. -/
theorem meetArgument (level : Level) {arg : String} (harg : arg ≠ "--") :
    Steady fun r => Reading.meetArgument level r arg := by
  refine of_choice fun r => ?_
  by_cases hesc : r.escaped = true
  · exact ⟨_, meetOperand level arg, meetArgument_of_escaped hesc arg,
      fun r' hr => meetArgument_of_escaped (hr.escaped_eq.trans hesc) arg⟩
  · have hesc : r.escaped = false := Bool.eq_false_iff.2 hesc
    have hesc' : ∀ r', Quieter r r' → r'.escaped = false := fun r' hr => hr.escaped_eq.trans hesc
    rcases meetArgument_cases harg with ⟨cs, h⟩ | ⟨c, cs, h⟩ | h
    · exact ⟨_, meetLong level cs, h level r hesc, fun r' hr => h level r' (hesc' r' hr)⟩
    · exact ⟨_, meetLetters level (c :: cs), h level r hesc,
        fun r' hr => h level r' (hesc' r' hr)⟩
    · exact ⟨_, meetBare level arg, h level r hesc, fun r' hr => h level r' (hesc' r' hr)⟩

end Steady

/-! ### What is pending -/

theorem settle_of_pending_none {t : Reading} (h : t.pending = none) : t.settle = .ok t := by
  rw [settle, h]

/-- What is settled waits for nothing. -/
structure Settles (r t : Reading) : Prop where
  settle_eq : r.settle = .ok t
  again : t.settle = .ok t
  operands_eq : t.operands = r.operands
  escaped_eq : t.escaped = r.escaped
  waiting : r.isWaiting = false ∧ t.isWaiting = false

theorem settles_of_settle {r t : Reading} (h : r.settle = .ok t) : Settles r t := by
  match hp : r.pending with
  | none =>
    have ht : r = t := by simpa [settle, hp] using h
    have hwait : r.isWaiting = false := by rw [isWaiting, hp]
    exact ht ▸ ⟨settle_of_pending_none hp, settle_of_pending_none hp, rfl, rfl, hwait, hwait⟩
  | some (o, none) => simp [settle, hp] at h
  | some (o, some value) =>
    have htake : ({ r with pending := none } : Reading).take o value = .ok t := by
      simpa [settle, hp] using h
    obtain ⟨-, -, rfl⟩ := take_eq_ok.1 htake
    refine ⟨h, rfl, rfl, rfl, ?_, rfl⟩
    rw [isWaiting, hp]

namespace Settles

variable {r t : Reading} (h : Settles r t)
include h

theorem meet_eq (o : OptionSpec) : r.meet o = t.meet o := by
  rw [meet, meet, h.settle_eq, h.again]

theorem meetWith_eq (o : OptionSpec) (value : String) : r.meetWith o value = t.meetWith o value := by
  rw [meetWith, meetWith, h.settle_eq, h.again]

theorem meetOperand_eq (level : Level) (arg : String) :
    r.meetOperand level arg = t.meetOperand level arg := by
  rw [meetOperand, meetOperand, h.settle_eq, h.again, h.operands_eq, h.escaped_eq]

theorem meetBare_eq (level : Level) (arg : String) : meetBare level arg r = meetBare level arg t := by
  have hbare : ∀ q : Reading, q.isWaiting = false → meetBare level arg q = q.meetOperand level arg := by
    intro q hq
    match hp : q.pending with
    | some (o, none) => simp [isWaiting, hp] at hq
    | none | some (o, some value) => rw [meetBare, hp]
  rw [hbare r h.waiting.1, hbare t h.waiting.2, h.meetOperand_eq]

theorem meetLetters_eq (level : Level) (c : Char) (cs : List Char) :
    meetLetters level r (c :: cs) = meetLetters level t (c :: cs) := by
  simp only [meetLetters, h.meet_eq, h.meetWith_eq]

theorem meetLong_eq (level : Level) (cs : List Char) :
    meetLong level r cs = meetLong level t cs := by
  simp only [meetLong, h.meet_eq, h.meetWith_eq]

/-- The next argument is met as if what is pending had been settled before it. -/
theorem meetArgument_eq (level : Level) {arg : String} (harg : arg ≠ "--" ∨ r.escaped = true) :
    meetArgument level r arg = meetArgument level t arg := by
  by_cases hesc : r.escaped = true
  · rw [meetArgument_of_escaped hesc, meetArgument_of_escaped (h.escaped_eq.trans hesc),
      h.meetOperand_eq]
  · have hr : r.escaped = false := Bool.eq_false_iff.2 hesc
    have ht : t.escaped = false := h.escaped_eq.trans hr
    rcases meetArgument_cases (harg.resolve_right hesc) with ⟨cs, hcs⟩ | ⟨c, cs, hcs⟩ | hbare
    · rw [hcs level r hr, hcs level t ht, h.meetLong_eq]
    · rw [hcs level r hr, hcs level t ht, h.meetLetters_eq]
    · rw [hbare level r hr, hbare level t ht, h.meetBare_eq]

end Settles

theorem settle_escape (r : Reading) :
    ({ r with escaped := true } : Reading).settle =
      r.settle.map fun t => { t with escaped := true } := by
  match hp : r.pending with
  | none => simp only [settle, hp, Except.map]
  | some (o, none) => simp only [settle, hp, Except.map]
  | some (o, some value) =>
    simp only [settle, hp, take, has]
    split
    · rfl
    · split <;> rfl

theorem Settles.escape {r t : Reading} (h : Settles r t) :
    Settles { r with escaped := true } { t with escaped := true } := by
  refine settles_of_settle ?_
  rw [settle_escape, h.settle_eq]
  rfl

theorem Quieter.escape {r r' : Reading} (h : Quieter r r') :
    Quieter { r with escaped := true } { r' with escaped := true } :=
  ⟨h.value?_eq, h.has_quiet, h.operands_eq, h.pending_eq, rfl⟩

theorem Quieter.isWaiting_eq {r r' : Reading} (h : Quieter r r') : r'.isWaiting = r.isWaiting := by
  rw [isWaiting, isWaiting, h.pending_eq]

/-- Two dashes that are met as such, or else a steady step. -/
theorem meetArgument_dashes_or (r : Reading) (arg : String) :
    (arg = "--" ∧ r.escaped = false) ∨ r.escaped = true ∨ arg ≠ "--" := by
  by_cases harg : arg = "--"
  · cases hr : r.escaped with
    | false => exact .inl ⟨harg, rfl⟩
    | true => exact .inr (.inl rfl)
  · exact .inr (.inr harg)

theorem given_meetArgument {level : Level} {r u : Reading} {arg : String}
    (h : meetArgument level r arg = .ok u) : r.given <+: u.given := by
  rcases meetArgument_dashes_or r arg with ⟨rfl, hr⟩ | hr | harg
  · rw [meetArgument_dashes hr] at h
    obtain rfl := Except.ok.inj h
    exact List.prefix_rfl
  · rw [meetArgument_of_escaped hr] at h
    exact (Steady.meetOperand level arg).given r u h
  · exact (Steady.meetArgument level harg).given r u h

theorem Quieter.meetArgument {level : Level} {r r' u : Reading} {arg : String} (hr : Quieter r r')
    (h : Reading.meetArgument level r arg = .ok u) (hquiet : u.has "quiet" = false) :
    ∃ u', Reading.meetArgument level r' arg = .ok u' ∧ Quieter u u' := by
  rcases meetArgument_dashes_or r arg with ⟨rfl, hesc⟩ | hesc | harg
  · rw [meetArgument_dashes hesc] at h
    obtain rfl := Except.ok.inj h
    exact ⟨_, meetArgument_dashes (hr.escaped_eq.trans hesc), hr.escape⟩
  · rw [meetArgument_of_escaped hesc] at h
    rw [meetArgument_of_escaped (hr.escaped_eq.trans hesc)]
    exact (Steady.meetOperand level arg).quieter r r' u hr h hquiet
  · exact (Steady.meetArgument level harg).quieter r r' u hr h hquiet

end Reading

open Reading

/-! ### Levels -/

namespace Level

/-- Reads a level and settles what is pending at its end. -/
def readAll (level : Level) (r : Reading) (args : List String) :
    Except Refusal (Reading × Option (String × List String)) := do
  let (u, subcommand) ← level.read r args
  return (← u.settle, subcommand)

theorem readAll_eq_ok {level : Level} {r u : Reading} {args : List String}
    {subcommand : Option (String × List String)} :
    level.readAll r args = .ok (u, subcommand) ↔
      ∃ t, level.read r args = .ok (t, subcommand) ∧ t.settle = .ok u := by
  rw [readAll, bind_eq_ok]
  constructor
  · rintro ⟨⟨t, sub⟩, ht, h⟩
    obtain ⟨v, hv, h⟩ := bind_eq_ok.1 h
    obtain ⟨rfl, rfl⟩ := Prod.mk.inj (pure_eq_ok.1 h)
    exact ⟨t, ht, hv⟩
  · rintro ⟨t, ht, hu⟩
    exact ⟨(t, subcommand), ht, bind_eq_ok.2 ⟨u, hu, rfl⟩⟩

theorem readAll_nil (level : Level) (r : Reading) :
    level.readAll r [] = r.settle.map fun u => (u, none) := by
  show (r.settle >>= fun u => pure (u, none)) = _
  cases r.settle <;> rfl

theorem readAll_cons (level : Level) (r : Reading) (arg : String) (rest : List String) :
    level.readAll r (arg :: rest) =
      if !r.escaped && !r.isWaiting && level.subcommands.contains arg then
        r.settle.map fun u => (u, some (arg, rest))
      else meetArgument level r arg >>= (level.readAll · rest) := by
  rw [readAll, read]
  split
  · show (r.settle >>= fun u => pure (u, some (arg, rest))) = _
    cases r.settle <;> rfl
  · cases meetArgument level r arg <;> rfl

/-- A level is read as if what is pending had been settled before it. -/
theorem readAll_eq_of_settles {level : Level} {args : List String} {r t : Reading}
    (h : Settles r t) : level.readAll r args = level.readAll t args := by
  induction args generalizing r t with
  | nil => rw [readAll_nil, readAll_nil, h.settle_eq, h.again]
  | cons arg rest ih =>
    rw [readAll_cons, readAll_cons, h.settle_eq, h.again, h.escaped_eq, h.waiting.1, h.waiting.2]
    have hmeet : (meetArgument level r arg >>= (level.readAll · rest)) =
        meetArgument level t arg >>= (level.readAll · rest) := by
      rcases meetArgument_dashes_or r arg with ⟨rfl, hr⟩ | hr | harg
      · rw [meetArgument_dashes hr, meetArgument_dashes (h.escaped_eq.trans hr)]
        exact ih h.escape
      · rw [h.meetArgument_eq level (.inr hr)]
      · rw [h.meetArgument_eq level (.inl harg)]
    rw [hmeet]

theorem settle_map_eq_ok {r u : Reading} {sub subcommand : Option (String × List String)} :
    (r.settle.map fun t => (t, sub)) = .ok (u, subcommand) ↔
      r.settle = .ok u ∧ subcommand = sub := by
  rw [map_eq_ok]
  constructor
  · rintro ⟨t, ht, heq⟩
    obtain ⟨rfl, rfl⟩ := Prod.mk.inj heq
    exact ⟨ht, rfl⟩
  · rintro ⟨hu, rfl⟩
    exact ⟨u, hu, rfl⟩

theorem given_readAll {level : Level} {args : List String} {r u : Reading}
    {subcommand : Option (String × List String)} (h : level.readAll r args = .ok (u, subcommand)) :
    r.given <+: u.given := by
  induction args generalizing r with
  | nil =>
    rw [readAll_nil, settle_map_eq_ok] at h
    exact Steady.settle.given r u h.1
  | cons arg rest ih =>
    rw [readAll_cons] at h
    split at h
    · exact Steady.settle.given r u (settle_map_eq_ok.1 h).1
    · obtain ⟨v, hv, hrest⟩ := bind_eq_ok.1 h
      exact (given_meetArgument hv).trans (ih hrest)

/-- Where the flag is there already, a level is read as it would be without it. -/
theorem readAll_quieter {level : Level} {args : List String} {r r' u : Reading}
    {subcommand : Option (String × List String)} (hr : Quieter r r')
    (h : level.readAll r args = .ok (u, subcommand)) (hquiet : u.has "quiet" = false) :
    ∃ u', level.readAll r' args = .ok (u', subcommand) ∧ Quieter u u' := by
  have hsettle : ∀ {sub}, r.settle = .ok u ∧ subcommand = sub →
      ∃ u', (r'.settle.map fun t => (t, sub)) = .ok (u', subcommand) ∧ Quieter u u' := by
    rintro sub ⟨hu, rfl⟩
    obtain ⟨u', hu', huu'⟩ := Steady.settle.quieter r r' u hr hu hquiet
    exact ⟨u', settle_map_eq_ok.2 ⟨hu', rfl⟩, huu'⟩
  cases args with
  | nil =>
    rw [readAll_nil] at h ⊢
    exact hsettle (settle_map_eq_ok.1 h)
  | cons arg rest =>
    rw [readAll_cons] at h ⊢
    rw [hr.escaped_eq, hr.isWaiting_eq]
    split at h
    · next hsub =>
      rw [if_pos hsub]
      exact hsettle (settle_map_eq_ok.1 h)
    · next hsub =>
      obtain ⟨v, hv, hrest⟩ := bind_eq_ok.1 h
      obtain ⟨v', hv', hvv'⟩ := hr.meetArgument hv (has_of_given (given_readAll hrest) hquiet)
      obtain ⟨u', hu', huu'⟩ := readAll_quieter hvv' hrest hquiet
      rw [if_neg hsub]
      exact ⟨u', bind_eq_ok.2 ⟨v', hv', hu'⟩, huu'⟩

/-! ### The flag put in between -/

/-- A level that knows the flag `--quiet`. -/
structure KnowsQuiet (level : Level) : Prop where
  option : level.options.find? (·.long == "quiet") = some ⟨"quiet", some 'q', .flag⟩
  subcommand : level.subcommands.contains "--quiet" = false

variable {level : Level} (hlevel : level.KnowsQuiet)
include hlevel

theorem KnowsQuiet.meetArgument_eq {r : Reading} (hr : r.escaped = false) :
    meetArgument level r "--quiet" =
      r.settle >>= fun t => t.take ⟨"quiet", some 'q', .flag⟩ "" := by
  have hlong : meetArgument level r "--quiet" =
      meetLong level r ['q', 'u', 'i', 'e', 't'] := by
    rw [meetArgument, if_neg (by simp [hr])]
    rfl
  have hname : String.ofList (['q', 'u', 'i', 'e', 't'].takeWhile (· != '=')) = "quiet" := by
    decide
  rw [hlong, meetLong, hname, hlevel.option]
  rfl

/-- The flag is read, and in what follows it makes no difference but that it is there. -/
theorem KnowsQuiet.readAll_quiet {r q u : Reading} {args : List String}
    {subcommand : Option (String × List String)} (hr : r.escaped = false)
    (h : level.readAll r args = .ok (u, subcommand)) (hquiet : u.has "quiet" = false)
    (hmeet : meetArgument level r "--quiet" = .ok q) :
    ∃ u', level.readAll q args = .ok (u', subcommand) ∧ Quieter u u' := by
  rw [hlevel.meetArgument_eq hr] at hmeet
  obtain ⟨t, ht, htake⟩ := bind_eq_ok.1 hmeet
  obtain ⟨-, -, rfl⟩ := take_eq_ok.1 htake
  rw [readAll_eq_of_settles (settles_of_settle ht)] at h
  exact readAll_quieter (quieter_take t) h hquiet

/-- Where the flag stands between two parts of a command line, it belongs to this level or to what
follows the name of a deeper one. -/
theorem KnowsQuiet.readAll_insert {before after : List String} {r u u' : Reading}
    {sub sub' : Option (String × List String)} (hr : r.escaped = false) (hbefore : "--" ∉ before)
    (h : level.readAll r (before ++ after) = .ok (u, sub)) (hquiet : u.has "quiet" = false)
    (h' : level.readAll r (before ++ "--quiet" :: after) = .ok (u', sub')) :
    (sub' = sub ∧ Quieter u u') ∨
    ∃ name mid, "--" ∉ mid ∧ sub = some (name, mid ++ after) ∧
      sub' = some (name, mid ++ "--quiet" :: after) ∧ u' = u := by
  -- two dashes are not among the arguments in front, so every reading on the way is not escaped
  induction before generalizing r with
  | nil =>
    rw [List.nil_append, readAll_cons, hlevel.subcommand, Bool.and_false,
      if_neg Bool.false_ne_true] at h'
    obtain ⟨q, hq, hrest⟩ := bind_eq_ok.1 h'
    obtain ⟨w, hw, huw⟩ := hlevel.readAll_quiet hr h hquiet hq
    have heq : (w, sub) = (u', sub') := Except.ok.inj (hw.symm.trans hrest)
    obtain ⟨rfl, rfl⟩ := Prod.mk.inj heq
    exact .inl ⟨rfl, huw⟩
  | cons arg before ih =>
    obtain ⟨harg, hbefore⟩ := not_or.1 (mt List.mem_cons.2 hbefore)
    rw [List.cons_append, readAll_cons] at h h'
    split at h
    · next hsub =>
      rw [if_pos hsub] at h'
      obtain ⟨hu, rfl⟩ := settle_map_eq_ok.1 h
      obtain ⟨hu', rfl⟩ := settle_map_eq_ok.1 h'
      exact .inr ⟨arg, before, hbefore, rfl, rfl, Except.ok.inj (hu'.symm.trans hu)⟩
    · next hsub =>
      rw [if_neg hsub] at h'
      obtain ⟨v, hv, hrest⟩ := bind_eq_ok.1 h
      obtain ⟨v', hv', hrest'⟩ := bind_eq_ok.1 h'
      obtain rfl : v' = v := Except.ok.inj (hv'.symm.trans hv)
      have hesc : v'.escaped = false :=
        ((Steady.meetArgument level (Ne.symm harg)).escaped r v' hv).trans hr
      exact ih hesc hbefore hrest hrest'

end Level

end RelGraph.Command
