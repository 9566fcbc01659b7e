import Fybrik.Taxonomy.Codegen
import Fybrik.Taxonomy.Union

/-!
# Any order of the maps

The loops of the compiler over maps go through them in no particular order, and the order of
the definitions of the base matters: a key is visited once, by whichever definition comes
first, and names replace what has been passed on before.

* `Compilation` — the merged definitions, and the keys of those that have a turn.
* `Spare` — visits that can be left out.
* `OrderSafe` — visits that get in the way of one another can be left out.
* `Covers` — all orders have the other visits in common.
* `documents_confluent` — the compiled document is the same in any order.
-/

namespace Fybrik.Compile

/-! ## Definitions on their own -/

/-- A visit that leaves the schema as it is. -/
def Stop.Idle (σ : Stop) : Prop :=
  ∃ s, σ.schema = some s ∧ applies σ.key s = some false ∧ s.passInline = s

/-- The merged definitions, with the keys of those that come from the base. -/
structure Compilation where
  quote : String → String
  merged : View
  keys : List String
  isSome_merged : ∀ key ∈ keys, (merged key).isSome = true

namespace Compilation

variable (c : Compilation)

/-- The schemas that are visited in the turn of a definition if it comes first. -/
def ownStops (key : String) : List Stop :=
  ((c.merged key).map fun schema => (⟨key, schema, []⟩ : Turn).stops c.quote).getD []

/-- The schemas that some definitions visit, each as if it came first. -/
def stopsIn (l : List String) : List Stop := l.flatMap c.ownStops

/-- Some definitions are replaced by names. -/
def names (l : List String) (x : String) : Bool := (c.stopsIn l).any (Stop.defines · x)

/-- What is passed on to a definition is listed there from the start, and for good. -/
def Absorbed (ke : String × List String) : Prop :=
  sortUnique (enumOf (c.merged ke.1) ++ ke.2) = enumOf (c.merged ke.1) ∧
    c.names c.keys ke.1 = false

/-- A visit that makes no difference. -/
structure Spare (σ : Stop) : Prop where
  idle : σ.Idle
  resolves : σ.resolves c.quote c.merged.knows = true
  absorbed : ∀ ke ∈ σ.passed c.quote, c.Absorbed ke

/-- A visit of one definition gets along with a visit of another one: it makes no difference if
they have the same key, so that only one of them takes place, or if the other one replaces the
definition by names; and nothing is passed on to names of the other one. -/
structure Safe (key : String) (σ σ' : Stop) : Prop where
  spare : σ'.key = σ.key ∨ σ'.defines key = true → c.Spare σ
  passed : ∀ ke ∈ σ.passed c.quote, σ'.defines ke.1 = false

/-- The visits of any two definitions of the base get along. -/
def OrderSafe : Prop :=
  ∀ key ∈ c.keys, ∀ key' ∈ c.keys, key' ≠ key → ∀ σ ∈ c.ownStops key, ∀ σ' ∈ c.ownStops key',
    c.Safe key σ σ'

/-- What becomes of a definition apart from its enumeration. -/
def shapeIn (l : List String) (x : String) : Option (Option SchemaRef) :=
  if c.names l x then some (some nameShape)
  else if x ∈ l then (c.merged x).map (Option.map fun s => (outcome c.quote x s []).node)
  else c.merged x

end Compilation

/-! ## Visits that come later -/

section Foreign

variable {quote : String → String} {foreign visited own : List String} {key : String}
  {s : SchemaRef}

theorem SchemaRef.passInline_of_eraseEnum (h : s.eraseEnum.passInline = s.eraseEnum) :
    s.passInline = s := by
  refine SchemaRef.eq_of_eraseEnum ?_ (SchemaRef.enum_passInline s)
  have herase : s.passInline.eraseEnum = s.eraseEnum.passInline.eraseEnum :=
    SchemaRef.eraseEnum_passInline rfl
  rw [herase, h]
  rfl

/-- A visit that other definitions have made before is skipped, which makes no difference if it
is idle; the alternatives of a union are left to `hinner`. -/
theorem outcome_foreign_of (hvisited : ∀ x, x ∈ visited ↔ x ∈ foreign ∨ x ∈ own)
    (hidle : ∀ σ ∈ (outcome quote key s own).stops, σ.key ∈ foreign → σ.Idle)
    (hinner : applies key s = some true →
      (∀ σ ∈ (optionalOutcomes quote s.oneOf (key :: own)).2, σ.key ∈ foreign → σ.Idle) →
      optionalOutcomes quote s.oneOf (key :: visited)
        = ((optionalOutcomes quote s.oneOf (key :: own)).1,
            (optionalOutcomes quote s.oneOf (key :: own)).2.filter (·.key ∉ foreign))) :
    outcome quote key s visited = ⟨(outcome quote key s own).node,
      (outcome quote key s own).stops.filter (·.key ∉ foreign)⟩ := by
  by_cases hown : key ∈ own
  · rw [outcome_of_visited hown, outcome_of_visited ((hvisited key).2 (Or.inr hown))]
    rfl
  by_cases hforeign : key ∈ foreign
  · rw [outcome_of_visited ((hvisited key).2 (Or.inl hforeign))]
    by_cases happlies : applies key s = some true
    · rw [outcome_of_union hown happlies] at hidle
      obtain ⟨_, hs, hnot, -⟩ := hidle ⟨key, some s.eraseEnum⟩ (by simp) hforeign
      obtain rfl := Option.some.inj hs
      exact absurd (hnot.symm.trans happlies) (by simp)
    · rw [outcome_of_not_union hown happlies] at hidle ⊢
      obtain ⟨_, hs, -, hinline⟩ := hidle ⟨key, some s.eraseEnum⟩ (by simp) hforeign
      obtain rfl := Option.some.inj hs
      simp [SchemaRef.passInline_of_eraseEnum hinline, hforeign]
  have hnew : key ∉ visited := fun hmem => ((hvisited key).1 hmem).elim hforeign hown
  by_cases happlies : applies key s = some true
  · rw [outcome_of_union hown happlies] at hidle ⊢
    rw [outcome_of_union hnew happlies,
      hinner happlies fun σ hσ => hidle σ (List.mem_append_left _ hσ)]
    simp [hforeign]
  · rw [outcome_of_not_union hown happlies, outcome_of_not_union hnew happlies]
    simp [hforeign]

variable (quote)

mutual

/-- What other definitions have visited before is skipped, which makes no difference if these
visits are idle. -/
theorem outcome_foreign (key : String) : (s : SchemaRef) → {visited own : List String} →
    (∀ x, x ∈ visited ↔ x ∈ foreign ∨ x ∈ own) →
    (∀ σ ∈ (outcome quote key s own).stops, σ.key ∈ foreign → σ.Idle) →
    outcome quote key s visited = ⟨(outcome quote key s own).node,
      (outcome quote key s own).stops.filter (·.key ∉ foreign)⟩
  | ⟨_, _, _, _, _, _, _, _, oneOf, _, _, _, _, _, _⟩, _, _, hvisited, hidle =>
    outcome_foreign_of hvisited hidle fun _ => optionalOutcomes_foreign oneOf fun x => by
      simp only [List.mem_cons, hvisited]
      tauto
termination_by structural s => s

theorem optionalOutcomes_foreign : (oneOf : Option (List (Option SchemaRef))) →
    {visited own : List String} → (∀ x, x ∈ visited ↔ x ∈ foreign ∨ x ∈ own) →
    (∀ σ ∈ (optionalOutcomes quote oneOf own).2, σ.key ∈ foreign → σ.Idle) →
    optionalOutcomes quote oneOf visited = ((optionalOutcomes quote oneOf own).1,
      (optionalOutcomes quote oneOf own).2.filter (·.key ∉ foreign))
  | none, _, _, _, _ => rfl
  | some alternatives, _, _, hvisited, hidle => outcomes_foreign alternatives hvisited hidle
termination_by structural oneOf => oneOf

theorem outcomes_foreign : (alternatives : List (Option SchemaRef)) →
    {visited own : List String} → (∀ x, x ∈ visited ↔ x ∈ foreign ∨ x ∈ own) →
    (∀ σ ∈ (outcomes quote alternatives own).2, σ.key ∈ foreign → σ.Idle) →
    outcomes quote alternatives visited = ((outcomes quote alternatives own).1,
      (outcomes quote alternatives own).2.filter (·.key ∉ foreign))
  | [], _, _, _, _ => rfl
  | none :: _, _, _, _, hidle => by
    have hkey : "" ∉ foreign := fun hmem => by
      obtain ⟨_, hs, -⟩ := hidle ⟨"", none⟩ List.mem_cons_self hmem
      cases hs
    simp [outcomes, hkey]
  | some v :: alternatives, visited, own, hvisited, hidle => by
    rw [outcomes] at hidle
    have hfirst := outcome_foreign (alternativeKey v) v hvisited
      fun σ hσ => hidle σ (List.mem_append_left _ hσ)
    have hkeys : ∀ x, x ∈ (outcome quote (alternativeKey v) v visited).stops.map Stop.key ++ visited
        ↔ x ∈ foreign ∨ x ∈ (outcome quote (alternativeKey v) v own).stops.map Stop.key ++ own := by
      intro x
      rw [hfirst]
      simp only [List.mem_append, List.mem_map, List.mem_filter, decide_eq_true_eq, hvisited]
      by_cases hx : x ∈ foreign
      · simp [hx]
      · grind
    have hothers := outcomes_foreign alternatives hkeys
      fun σ hσ => hidle σ (List.mem_append_right _ hσ)
    rw [outcomes, outcomes, hothers, hfirst, List.filter_append]
termination_by structural alternatives => alternatives

end

end Foreign

/-! ## Single visits -/

section Visits

variable {quote : String → String} {x : String} {σ : Stop}

theorem Stop.mem_passes {extra : List String} :
    extra ∈ σ.passes quote x ↔ (x, extra) ∈ σ.passed quote := by
  simp only [Stop.passes, passesTo, List.mem_filterMap, Option.ite_none_right_eq_some,
    Option.some.injEq]
  constructor
  · rintro ⟨⟨_, _⟩, hke, rfl, rfl⟩
    exact hke
  · exact fun hke => ⟨_, hke, rfl, rfl⟩

theorem SchemaRef.resolvesAt_iff (known : String → Bool) (s : SchemaRef) (name : String) :
    s.resolvesAt known name = true ↔
      s.resolvesAt (fun _ => true) name = true ∧ ∀ ke ∈ s.passedFor name, known ke.1 = true := by
  unfold SchemaRef.resolvesAt SchemaRef.passedFor
  cases s.properties.lookup name with
  | none => simp
  | some property =>
    cases property with
    | none => simp
    | some property => by_cases href : property.ref = "" <;> simp [href]

/-- What a visit looks for: schemas that are in it, and the definitions that it passes on to. -/
theorem Stop.resolves_iff (known : String → Bool) : σ.resolves quote known = true ↔
    σ.resolves quote (fun _ => true) = true ∧ ∀ ke ∈ σ.passed quote, known ke.1 = true := by
  rw [Stop.resolves, Stop.resolves, Stop.passed]
  cases σ.subject quote with
  | none => simp
  | some s =>
    simp only [Option.any_some, SchemaRef.resolves, List.all_eq_true, Option.map_some,
      Option.getD_some, List.mem_filterMap]
    constructor
    · refine fun h => ⟨fun name hname => ((s.resolvesAt_iff known name).1 (h name hname)).1, ?_⟩
      rintro ke ⟨name, hname, hke⟩
      exact ((s.resolvesAt_iff known name).1 (h name hname)).2 ke hke
    · rintro ⟨h, h'⟩ name hname
      exact (s.resolvesAt_iff known name).2 ⟨h name hname, fun ke hke => h' ke ⟨name, hname, hke⟩⟩

/-- Definitions that make no difference to what visits look for. -/
theorem resolved_congr {known known' : String → Bool} {stops : List Stop}
    (h : ∀ σ ∈ stops, ∀ ke ∈ σ.passed quote, known ke.1 = known' ke.1) :
    resolved quote known stops = resolved quote known' stops := by
  induction stops generalizing known known' with
  | nil => rfl
  | cons σ stops ih =>
    obtain ⟨hσ, hstops⟩ := List.forall_mem_cons.1 h
    have hrest : resolved quote (fun k => known k || σ.defines k) stops
        = resolved quote (fun k => known' k || σ.defines k) stops :=
      ih fun σ' hσ' ke hke => by rw [hstops σ' hσ' ke hke]
    rw [resolved, resolved, hrest]
    congr 1
    rw [Bool.eq_iff_iff, Stop.resolves_iff, Stop.resolves_iff fun k => known' k || _]
    refine and_congr_right fun _ => forall₂_congr fun ke hke => ?_
    rw [hσ ke hke]

end Visits

/-! ## What all orders have in common -/

namespace Compilation

variable {c : Compilation} {l : List String} {turns : List Turn} {key key' x : String}
  {σ σ' : Stop} {stops : List Stop}

theorem Spare.defines (h : c.Spare σ) (x : String) : σ.defines x = false := by
  obtain ⟨s, hs, happlies, -⟩ := h.idle
  simp [Stop.defines, hs, happlies]

theorem mem_stopsIn : σ ∈ c.stopsIn l ↔ ∃ key ∈ l, σ ∈ c.ownStops key := List.mem_flatMap

theorem names_perm {l' : List String} (h : l.Perm l') (x : String) : c.names l x = c.names l' x :=
  (h.flatMap_right c.ownStops).any_eq

theorem ownStops_of_some {schema : Option SchemaRef} (h : c.merged key = some schema) :
    c.ownStops key = (⟨key, schema, []⟩ : Turn).stops c.quote := by
  rw [ownStops, h]
  rfl

theorem root_mem_ownStops {schema : Option SchemaRef} (h : c.merged key = some schema) :
    ⟨key, schema.map SchemaRef.eraseEnum⟩ ∈ c.ownStops key := by
  rw [ownStops_of_some h]
  cases schema with
  | none => exact List.mem_singleton_self _
  | some s =>
    rw [Turn.stops]
    by_cases hunion : applies key s = some true
    · simp [outcome_of_union List.not_mem_nil hunion]
    · simp [outcome_of_not_union List.not_mem_nil hunion]

/-- A definition that is idle visits nothing else. -/
theorem ownStops_of_idle {schema : Option SchemaRef} (h : c.merged key = some schema)
    (hidle : Stop.Idle ⟨key, schema.map SchemaRef.eraseEnum⟩) :
    c.ownStops key = [⟨key, schema.map SchemaRef.eraseEnum⟩] ∧
      schema.map (fun s => (outcome c.quote key s []).node) = schema := by
  obtain ⟨_, hs, happlies, hinline⟩ := hidle
  obtain ⟨s, rfl, rfl⟩ := Option.map_eq_some_iff.1 hs
  have hunion : applies key s ≠ some true := fun htrue => by cases happlies.symm.trans htrue
  rw [ownStops_of_some h, Turn.stops]
  simp [outcome_of_not_union List.not_mem_nil hunion, SchemaRef.passInline_of_eraseEnum hinline]

open Classical in
/-- The visits that cannot be left out. -/
noncomputable def needed (c : Compilation) (stops : List Stop) : List Stop :=
  stops.filter (¬ c.Spare ·)

theorem needed_cons_of_spare (h : c.Spare σ) (stops : List Stop) :
    c.needed (σ :: stops) = c.needed stops :=
  List.filter_cons_of_neg (by simpa using h)

theorem needed_cons_of_not_spare (h : ¬ c.Spare σ) (stops : List Stop) :
    c.needed (σ :: stops) = σ :: c.needed stops :=
  List.filter_cons_of_pos (by simpa using h)

theorem any_defines_needed (stops : List Stop) (x : String) :
    (c.needed stops).any (Stop.defines · x) = stops.any (Stop.defines · x) := by
  induction stops with
  | nil => rfl
  | cons σ stops ih =>
    by_cases hspare : c.Spare σ
    · rw [needed_cons_of_spare hspare, ih, List.any_cons, hspare.defines, Bool.false_or]
    · rw [needed_cons_of_not_spare hspare, List.any_cons, List.any_cons, ih]

/-- The turns for some definitions make the visits of these definitions that are needed. -/
structure Covers (c : Compilation) (l : List String) (turns : List Turn) : Prop where
  turned : ∀ τ ∈ turns, τ.key ∈ l
  visited : ∀ σ ∈ stopsOf c.quote turns, ∃ σ' ∈ c.stopsIn l, σ'.key = σ.key
  stops : c.needed (stopsOf c.quote turns) = c.needed (c.stopsIn l)
  shape : ∀ x, shape c.quote c.merged turns x = c.shapeIn l x

theorem Covers.any_defines (h : c.Covers l turns) (x : String) :
    (stopsOf c.quote turns).any (Stop.defines · x) = c.names l x := by
  rw [← any_defines_needed, h.stops, any_defines_needed, names]

/-- One more definition. -/
theorem Covers.append (h : c.Covers l turns) (hkey : key ∉ l) (next : List Turn)
    (hturned : ∀ τ ∈ next, τ.key = key)
    (hvisited : ∀ σ ∈ stopsOf c.quote next, ∃ σ' ∈ c.ownStops key, σ'.key = σ.key)
    (hstops : c.needed (stopsOf c.quote next) = c.needed (c.ownStops key))
    (hshape : c.names l key = false →
      Compile.shape c.quote c.merged next key = c.shapeIn [key] key) :
    c.Covers (l ++ [key]) (turns ++ next) := by
  have hin : c.stopsIn (l ++ [key]) = c.stopsIn l ++ c.ownStops key := by simp [stopsIn]
  have hnames : ∀ x, (stopsOf c.quote next).any (Stop.defines · x) = c.names [key] x := by
    intro x
    rw [← any_defines_needed, hstops, any_defines_needed, names, stopsIn, List.flatMap_singleton]
  refine ⟨fun τ hτ => ?_, fun σ hσ => ?_, ?_, fun x => ?_⟩
  · rcases List.mem_append.1 hτ with hτ | hτ
    · exact List.mem_append_left _ (h.turned τ hτ)
    · simp [hturned τ hτ]
  · rw [hin]
    rw [stopsOf_append] at hσ
    rcases List.mem_append.1 hσ with hσ | hσ
    · obtain ⟨σ', hσ', heq⟩ := h.visited σ hσ
      exact ⟨σ', List.mem_append_left _ hσ', heq⟩
    · obtain ⟨σ', hσ', heq⟩ := hvisited σ hσ
      exact ⟨σ', List.mem_append_right _ hσ', heq⟩
  · have hbefore := h.stops
    unfold needed at hbefore hstops ⊢
    rw [hin, stopsOf_append, List.filter_append, List.filter_append, hbefore, hstops]
  · have hboth : c.names (l ++ [key]) x = (c.names l x || c.names [key] x) := by
      simp [names, stopsIn]
    have hbefore := h.shape x
    rw [Compile.shape, h.any_defines, shapeIn] at hbefore
    rw [Compile.shape, shapeIn, hboth, stopsOf_append, List.any_append, h.any_defines, hnames]
    cases hdefined : c.names l x with
    | true => simp
    | false =>
      cases hown : c.names [key] x with
      | true => simp
      | false =>
        simp only [hdefined, Bool.or_self, Bool.false_eq_true, if_false, List.find?_append]
          at hbefore ⊢
        by_cases hx : x = key
        · subst hx
          have hnone : turns.find? (Turn.key · == x) = none :=
            List.find?_eq_none.2 fun τ hτ heq => hkey (beq_iff_eq.1 heq ▸ h.turned τ hτ)
          have hnode := hshape hdefined
          rw [Compile.shape, shapeIn, hnames, hown] at hnode
          simpa [hnone] using hnode
        · have hnone : next.find? (Turn.key · == x) = none :=
            List.find?_eq_none.2 fun τ hτ heq => hx (beq_iff_eq.1 heq ▸ hturned τ hτ)
          simpa [hnone, hx] using hbefore

/-- A schema without properties has nothing to do when it is visited. -/
theorem spare_of_properties {s : SchemaRef} (happlies : applies key s = some false)
    (h : s.properties = []) : c.Spare ⟨key, some s⟩ := by
  have hsubject : Stop.subject c.quote ⟨key, some s⟩ = some s := by
    simp [Stop.subject, happlies]
  refine ⟨⟨s, rfl, happlies, by simp [SchemaRef.passInline, h]⟩, ?_, ?_⟩
  · simp [Stop.resolves, hsubject, SchemaRef.resolves, h]
  · simp [Stop.passed, hsubject, h]

/-- The next turn of the tour. -/
theorem Covers.takeTurn (h : c.Covers l turns) (hsafe : c.OrderSafe) (hl : ∀ k ∈ l, k ∈ c.keys)
    (hkey : key ∈ c.keys) (hnew : key ∉ l) :
    c.Covers (l ++ [key]) (takeTurn c.quote c.merged turns key) := by
  have hother : ∀ σ ∈ c.ownStops key, ∀ σ' ∈ c.stopsIn l, c.Safe key σ σ' := by
    intro σ hσ σ' hσ'
    obtain ⟨key', hkey', hσ'⟩ := mem_stopsIn.1 hσ'
    exact hsafe key hkey key' (hl key' hkey') (fun heq => hnew (heq ▸ hkey')) σ hσ σ' hσ'
  have hshared : ∀ σ ∈ c.ownStops key, σ.key ∈ (stopsOf c.quote turns).map Stop.key →
      c.Spare σ := by
    intro σ hσ hmem
    obtain ⟨σ₁, hσ₁, heq⟩ := List.mem_map.1 hmem
    obtain ⟨σ', hσ', heq'⟩ := h.visited σ₁ hσ₁
    exact (hother σ hσ σ' hσ').spare (Or.inl (heq'.trans heq))
  obtain ⟨schema, hschema⟩ := Option.isSome_iff_exists.1 (c.isSome_merged key hkey)
  have hroot := root_mem_ownStops hschema
  rw [Compile.takeTurn]
  split_ifs with hvisited hnames
  · -- another definition has visited this one
    have hspare := hshared _ hroot hvisited
    obtain ⟨hown, hnode⟩ := ownStops_of_idle hschema hspare.idle
    have hcovers := h.append hnew [] (by simp) (by simp [stopsOf]) ?_ fun _ => ?_
    · rwa [List.append_nil] at hcovers
    · rw [hown, needed_cons_of_spare hspare]
      rfl
    · simp [Compile.shape, shapeIn, names, stopsIn, stopsOf, hown, hspare.defines, hschema, hnode]
  · -- another definition has replaced this one by names
    rw [h.any_defines] at hnames
    obtain ⟨σ', hσ', hdefines⟩ := List.any_eq_true.1 hnames
    have hspare := (hother _ hroot σ' hσ').spare (Or.inr hdefines)
    have happlies : applies key nameShape = some false := by
      simp [applies, nameShape, SchemaRef.empty]
    have hstops : stopsOf c.quote [⟨key, some nameShape, (stopsOf c.quote turns).map Stop.key⟩]
        = [⟨key, some nameShape⟩] := by
      rw [stopsOf_singleton, Turn.stops]
      dsimp only
      rw [outcome_of_not_union hvisited (by simp [happlies])]
      rfl
    refine h.append hnew _ (fun τ hτ => by rw [List.mem_singleton.1 hτ]) (fun σ hσ => ?_) ?_
      fun hnot => absurd (hnames.symm.trans hnot) (by simp)
    · rw [hstops] at hσ
      rw [List.mem_singleton.1 hσ]
      exact ⟨_, hroot, rfl⟩
    · rw [hstops, (ownStops_of_idle hschema hspare.idle).1, needed_cons_of_spare hspare,
        needed_cons_of_spare (spare_of_properties happlies rfl)]
  · rw [hschema]
    have hown := ownStops_of_some hschema
    set visited := (stopsOf c.quote turns).map Stop.key
    have hturn : Turn.stops c.quote ⟨key, schema, visited⟩
          = (c.ownStops key).filter (·.key ∉ visited) ∧
        Turn.node c.quote ⟨key, schema, visited⟩
          = schema.map fun s => (outcome c.quote key s []).node := by
      cases schema with
      | none =>
        rw [hown]
        simp [Turn.stops, Turn.node, hvisited]
      | some s =>
        have hsplit : ∀ x, x ∈ visited ↔ x ∈ visited ∨ x ∈ [] := fun x => by simp
        have hforeign := outcome_foreign c.quote key s hsplit fun σ hσ hmem =>
          (hshared σ (hown ▸ hσ) hmem).idle
        have hnode := congrArg Visit.node hforeign
        rw [hown]
        exact ⟨congrArg Visit.stops hforeign, congrArg some hnode⟩
    have hneeded : c.needed (stopsOf c.quote [⟨key, schema, visited⟩])
        = c.needed (c.ownStops key) := by
      rw [stopsOf_singleton, hturn.1, needed, List.filter_filter]
      refine List.filter_congr fun σ hσ => ?_
      simp only [decide_not, Bool.and_eq_left_iff_imp]
      simpa using fun hnot => mt (hshared σ hσ) hnot
    refine h.append hnew _ (fun τ hτ => by rw [List.mem_singleton.1 hτ]) (fun σ hσ => ?_) hneeded
      fun _ => ?_
    · rw [stopsOf_singleton, hturn.1] at hσ
      exact ⟨σ, (List.mem_filter.1 hσ).1, rfl⟩
    · rw [Compile.shape, ← any_defines_needed, hneeded, any_defines_needed, shapeIn, names, stopsIn,
        List.flatMap_singleton]
      simp [hschema, hturn.2]

/-- The tour through the definitions of the base in any order. -/
theorem covers_tour (hsafe : c.OrderSafe) (hnodup : l.Nodup) (hl : ∀ k ∈ l, k ∈ c.keys) :
    c.Covers l (tour c.quote c.merged l) := by
  induction l using List.reverseRecOn with
  | nil =>
    exact ⟨nofun, nofun, rfl,
      fun _ => rfl⟩
  | append_singleton l key ih =>
    obtain ⟨hfirst, -, hdisjoint⟩ := List.nodup_append.1 hnodup
    have hl' : ∀ k ∈ l, k ∈ c.keys := fun k hk => hl k (List.mem_append_left _ hk)
    rw [tour, List.foldl_append]
    exact (ih hfirst hl').takeTurn hsafe hl' (hl key (by simp))
      fun hmem => hdisjoint key hmem key (by simp) rfl

/-! ## Enumerations -/

/-- The enumeration contains what is absorbed. -/
def Contains (c : Compilation) (x : String) (e : List String) : Prop :=
  ∀ extra, c.Absorbed (x, extra) → sortUnique (e ++ extra) = e

theorem Contains.enriched {e : List String} (h : c.Contains x e) (extras : List (List String)) :
    c.Contains x (enriched e extras) := by
  induction extras generalizing e with
  | nil => exact h
  | cons extra extras ih =>
    refine ih fun extra' habsorbed => ?_
    rw [sortUnique_append_comm, h extra' habsorbed]

/-- A visit that can be left out does not change an enumeration. -/
theorem Spare.enumAt_eq {e : List String} (hσ : c.Spare σ) (h : c.Contains x e) :
    σ.enumAt c.quote x e = e := by
  rw [Stop.enumAt, hσ.defines, if_neg Bool.false_ne_true]
  have habsorbed : ∀ extra ∈ σ.passes c.quote x, c.Absorbed (x, extra) := fun extra hextra =>
    hσ.absorbed _ (Stop.mem_passes.1 hextra)
  generalize σ.passes c.quote x = extras at habsorbed
  induction extras with
  | nil => rfl
  | cons extra extras ih =>
    obtain ⟨hextra, hextras⟩ := List.forall_mem_cons.1 habsorbed
    rw [Compile.enriched, List.foldl_cons, h extra hextra]
    exact ih hextras

theorem enumAfter_needed {e : List String}
    (hnames : stops.any (Stop.defines · x) = true → c.names c.keys x = true)
    (h : c.Contains x e) :
    enumAfter c.quote x (c.needed stops) e = enumAfter c.quote x stops e := by
  induction stops generalizing e with
  | nil => rfl
  | cons σ stops ih =>
    have hlater : stops.any (Stop.defines · x) = true → c.names c.keys x = true :=
      fun hany => hnames (by simp [hany])
    by_cases hspare : c.Spare σ
    · rw [needed_cons_of_spare hspare, ih hlater h, enumAfter, enumAfter, List.foldl_cons,
        hspare.enumAt_eq h]
    · rw [needed_cons_of_not_spare hspare]
      refine ih hlater fun extra habsorbed => ?_
      cases hdefines : σ.defines x with
      | true => cases habsorbed.2.symm.trans (hnames (by simp [hdefines]))
      | false =>
        rw [Stop.enumAt, hdefines]
        exact h.enriched _ extra habsorbed

/-- The visits of two definitions can be exchanged. -/
theorem OrderSafe.enumAfter_comm (hsafe : c.OrderSafe) (hkey : key ∈ c.keys)
    (hkey' : key' ∈ c.keys) (e : List String) :
    enumAfter c.quote x (c.ownStops key') (enumAfter c.quote x (c.ownStops key) e)
      = enumAfter c.quote x (c.ownStops key) (enumAfter c.quote x (c.ownStops key') e) := by
  by_cases heq : key' = key
  · rw [heq]
  -- where one of them defines names, the other one does nothing
  have hnames : ∀ {k k'}, k ∈ c.keys → k' ∈ c.keys → k' ≠ k → ∀ σ ∈ c.ownStops k,
      σ.defines x = true → ∀ e, enumAfter c.quote x (c.ownStops k') e = e := by
    intro k k' hk hk' hne σ hσ hdefines e
    have hnot : ∀ σ' ∈ c.ownStops k', σ'.defines x = false := by
      intro σ' hσ'
      by_contra hdefines'
      have hdefines' := Bool.not_eq_false _ ▸ hdefines'
      have hspare := (hsafe k' hk' k hk hne.symm σ' hσ' σ hσ).spare
        (Or.inl (Stop.key_eq_of_defines hdefines hdefines'))
      exact absurd ((hspare.defines x).symm.trans hdefines') (by simp)
    have hpasses : (c.ownStops k').flatMap (Stop.passes c.quote x) = [] := by
      refine List.flatMap_eq_nil_iff.2 fun σ' hσ' => List.eq_nil_iff_forall_not_mem.2 ?_
      intro extra hextra
      have hpassed := (hsafe k' hk' k hk hne.symm σ' hσ' σ hσ).passed _ (Stop.mem_passes.1 hextra)
      exact absurd (hdefines.symm.trans hpassed) (by simp)
    rw [enumAfter_eq_enriched hnot, hpasses]
    rfl
  by_cases hdefines : ∃ σ ∈ c.ownStops key, σ.defines x = true
  · obtain ⟨σ, hσ, hdefines⟩ := hdefines
    rw [hnames hkey hkey' heq σ hσ hdefines, hnames hkey hkey' heq σ hσ hdefines]
  by_cases hdefines' : ∃ σ ∈ c.ownStops key', σ.defines x = true
  · obtain ⟨σ, hσ, hdefines'⟩ := hdefines'
    rw [hnames hkey' hkey (Ne.symm heq) σ hσ hdefines',
      hnames hkey' hkey (Ne.symm heq) σ hσ hdefines']
  simp only [not_exists, not_and, Bool.not_eq_true] at hdefines hdefines'
  simp only [enumAfter_eq_enriched hdefines, enumAfter_eq_enriched hdefines', enriched,
    ← List.foldl_append]
  exact List.perm_append_comm.foldl_eq' (fun _ _ _ _ e => sortUnique_append_comm e _ _) e

/-- The enumerations are the same in any order. -/
theorem Covers.enum_eq (h : c.Covers l turns) (hsafe : c.OrderSafe) (hl : l.Perm c.keys)
    (x : String) :
    enumAfter c.quote x (stopsOf c.quote turns) (enumOf (c.merged x))
      = c.keys.foldl (fun e key => enumAfter c.quote x (c.ownStops key) e)
          (enumOf (c.merged x)) := by
  have hcontains : c.Contains x (enumOf (c.merged x)) := fun _ habsorbed => habsorbed.1
  have hnames : c.names l x = c.names c.keys x := names_perm hl x
  rw [← enumAfter_needed (by rw [h.any_defines, hnames]; exact id) hcontains, h.stops,
    enumAfter_needed (by rw [← names, hnames]; exact id) hcontains, enumAfter, stopsIn,
    List.foldl_flatMap]
  exact hl.foldl_eq' (fun key hkey key' hkey' e =>
    hsafe.enumAfter_comm (hl.mem_iff.1 hkey) (hl.mem_iff.1 hkey') e) _

/-! ## Crashes -/

/-- Visits that can be left out find what they look for. -/
theorem resolved_needed {known : String → Bool}
    (hknown : ∀ k, c.merged.knows k = true → known k = true) :
    resolved c.quote known (c.needed stops) = resolved c.quote known stops := by
  induction stops generalizing known with
  | nil => rfl
  | cons σ stops ih =>
    by_cases hspare : c.Spare σ
    · rw [needed_cons_of_spare hspare, ih hknown, resolved]
      obtain ⟨hfirst, hpassed⟩ := (Stop.resolves_iff _).1 hspare.resolves
      have hresolves : σ.resolves c.quote known = true :=
        (Stop.resolves_iff known).2 ⟨hfirst, fun ke hke => hknown _ (hpassed ke hke)⟩
      simp [hspare.defines, hresolves]
    · rw [needed_cons_of_not_spare hspare, resolved, resolved, ih fun k hk => by simp [hknown k hk]]

/-- What a definition finds does not depend on the definitions before. -/
theorem OrderSafe.resolved_stopsIn (hsafe : c.OrderSafe) (hnodup : l.Nodup)
    (hl : ∀ k ∈ l, k ∈ c.keys) : resolved c.quote c.merged.knows (c.stopsIn l) = true ↔
      ∀ key ∈ l, resolved c.quote c.merged.knows (c.ownStops key) = true := by
  induction l with
  | nil => simp [stopsIn, resolved]
  | cons key l ih =>
    obtain ⟨hkey, hl⟩ := List.forall_mem_cons.1 hl
    rw [List.nodup_cons] at hnodup
    -- the others do not look for the names that the definition makes
    have hothers : resolved c.quote
        (fun k => c.merged.knows k || (c.ownStops key).any (Stop.defines · k)) (c.stopsIn l)
          = resolved c.quote c.merged.knows (c.stopsIn l) := by
      refine resolved_congr fun σ hσ ke hke => ?_
      obtain ⟨key', hkey', hσ⟩ := mem_stopsIn.1 hσ
      have hne : key ≠ key' := fun heq => hnodup.1 (heq ▸ hkey')
      have hnone : (c.ownStops key).any (Stop.defines · ke.1) = false :=
        List.any_eq_false.2 fun σ' hσ' => by
          simp [(hsafe key' (hl key' hkey') key hkey hne σ hσ σ' hσ').passed ke hke]
      rw [hnone, Bool.or_false]
    rw [stopsIn, List.flatMap_cons, ← stopsIn, resolved_append, hothers, Bool.and_eq_true,
      ih hnodup.2 hl, List.forall_mem_cons]

/-- Whether the compiler crashes does not depend on the order. -/
theorem Covers.resolved_iff (h : c.Covers l turns) (hsafe : c.OrderSafe) (hl : l.Perm c.keys)
    (hnodup : l.Nodup) : resolved c.quote c.merged.knows (stopsOf c.quote turns) = true ↔
      ∀ key ∈ c.keys, resolved c.quote c.merged.knows (c.ownStops key) = true := by
  rw [← resolved_needed (fun _ hk => hk), h.stops, resolved_needed fun _ hk => hk,
    hsafe.resolved_stopsIn hnodup fun _ => hl.mem_iff.1]
  exact forall_congr' fun key => by rw [hl.mem_iff]

theorem Covers.shape_eq (h : c.Covers l turns) (hl : l.Perm c.keys) (x : String) :
    Compile.shape c.quote c.merged turns x = c.shapeIn c.keys x := by
  simp only [h.shape, shapeIn, names_perm hl, hl.mem_iff]

end Compilation

/-! ## Documents -/

section Documents

variable {quote : String → String} {base : Document} {layers : List Document}

/-- The merged definitions do not depend on the order of the loops. -/
theorem lookup_mergeDefinitions {documents : List Document} (order order' : IterationOrder)
    (h : ∀ doc ∈ documents, doc.WellFormed) :
    (mergeDefinitions order documents).lookup = (mergeDefinitions order' documents).lookup := by
  funext key
  have hjoin : ((mergeDefinitions order documents).lookup key).join
      = ((mergeDefinitions order' documents).lookup key).join := by
    have hlocate := ((locate_mergeDefinitions order h key).2 []).trans
      ((locate_mergeDefinitions order' h key).2 []).symm
    simpa [SchemaRef.locate] using hlocate
  have hsome : ((mergeDefinitions order documents).lookup key).isSome
      = ((mergeDefinitions order' documents).lookup key).isSome := by
    rw [Bool.eq_iff_iff, AList.lookup_isSome, AList.lookup_isSome, mem_mergeDefinitions,
      mem_mergeDefinitions]
  revert hjoin hsome
  cases (mergeDefinitions order documents).lookup key <;>
    cases (mergeDefinitions order' documents).lookup key <;> simp

theorem eq_of_erased {schema schema' : Option (Option SchemaRef)}
    (h : erased schema = erased schema') (henum : enumOf schema = enumOf schema') :
    schema = schema' := by
  cases schema' with
  | none => simpa [erased] using h
  | some s' =>
    cases s' with
    | none => simpa [erased] using h
    | some s' =>
      obtain ⟨s, rfl, hs⟩ := eq_some_of_erased h
      rw [SchemaRef.eq_of_eraseEnum hs henum]

/-- What the compiler starts from. -/
def compilation (quote : String → String) (base : Document) (layers : List Document) :
    Compilation where
  quote := quote
  merged := (mergeDefinitions listedOrder (base :: layers)).lookup
  keys := base.definitions.keys
  isSome_merged k hk :=
    AList.lookup_isSome.2 ((mem_mergeDefinitions _ _ k).2 ⟨base, List.mem_cons_self, hk⟩)

/-- The definitions that the visits lead to do not depend on the order. -/
theorem visitAll_confluent (order order' : IterationOrder)
    (hwf : ∀ doc ∈ base :: layers, doc.WellFormed)
    (hsafe : (compilation quote base layers).OrderSafe) :
    Option.Rel (fun t t' => ∀ key, t.read.lookup key = t'.read.lookup key)
      (visitAll quote order base (mergeDefinitions order (base :: layers)))
      (visitAll quote order' base (mergeDefinitions order' (base :: layers))) := by
  set c := compilation quote base layers
  have hm : ∀ order, (mergeDefinitions order (base :: layers)).lookup = c.merged := fun order =>
    lookup_mergeDefinitions order listedOrder hwf
  have hperm : ∀ order : IterationOrder, (order.definitions base.definitions.keys).Perm c.keys :=
    fun order => order.definitions_perm _
  have hnodup : ∀ order : IterationOrder, (order.definitions base.definitions.keys).Nodup :=
    fun order => (hperm order).nodup_iff.2 base.definitions.nodupKeys
  have hcovers : ∀ order : IterationOrder, c.Covers (order.definitions base.definitions.keys)
      (documentTour quote order base layers) := by
    intro order
    rw [documentTour, hm]
    exact Compilation.covers_tour hsafe (hnodup order) fun k => (hperm order).mem_iff.1
  have hresolved : ∀ order, ResolvedTour quote order base layers ↔
      ∀ key ∈ c.keys, resolved quote c.merged.knows (c.ownStops key) = true := by
    intro order
    rw [ResolvedTour, hm]
    exact (hcovers order).resolved_iff hsafe (hperm order) (hnodup order)
  refine Loops.rel_of_isSome ?_ fun t t' ht ht' key => ?_
  · rw [(run_follows quote order base layers).1, (run_follows quote order' base layers).1,
      hresolved, hresolved]
  · obtain ⟨st, hrefines, hfollows⟩ := (run_follows quote order base layers).2 t ht
    obtain ⟨st', hrefines', hfollows'⟩ := (run_follows quote order' base layers).2 t' ht'
    rw [hm] at hfollows hfollows'
    rw [hrefines.view, hrefines'.view]
    refine eq_of_erased ?_ ?_
    · rw [hfollows.shape, hfollows'.shape]
      exact congrArg erased (((hcovers order).shape_eq (hperm order) key).trans
        ((hcovers order').shape_eq (hperm order') key).symm)
    · rw [hfollows.enum, hfollows'.enum]
      exact ((hcovers order).enum_eq hsafe (hperm order) key).trans
        ((hcovers order').enum_eq hsafe (hperm order') key).symm

/-- The definitions are taken the other way round. -/
def reversedOrder : IterationOrder :=
  { listedOrder with
    definitions := List.reverse
    definitions_perm := List.reverse_perm }

/-- A union that is an alternative of another one. -/
def nestedBase : Document :=
  documentOf
    [("Outer", unionOf { SchemaRef.empty with type := "string" } [refTo "Inner"]),
      ("Inner", unionOf { SchemaRef.empty with type := "string" } [refTo "Leaf"]),
      ("Leaf", SchemaRef.empty)]

end Documents

end Fybrik.Compile
