import Fybrik.Taxonomy.Visits

/-!
# Visits in memory

The compiler works on variables in memory, and follows references while a definition is being
rewritten.  What it does to the definitions is what `Stop.run` says.

* `Transformer.view` — the definitions in memory, where the one that is being rewritten is shown
  as what will become of it.
* `Frames` — what stays in memory during a visit.
* `transformSchema_after` — a visit does what its stops do, and crashes exactly if one of them
  does.
* `visit_refines` — the loop of `transform` takes the turns of `turn`.
-/

namespace Fybrik.Compile

/-! ## Definitions in memory -/

/-- Definitions are variables in memory, each its own one. -/
structure Transformer.WellFormed (t : Transformer) : Prop where
  inRange : ∀ key a, t.definitions.lookup key = some (some a) → a < t.heap.size
  distinct : ∀ key key' a, t.definitions.lookup key = some (some a) →
    t.definitions.lookup key' = some (some a) → key = key'

/-- A variable that is no definition. -/
def Transformer.Loose (t : Transformer) (a : ℕ) : Prop :=
  ∀ key, t.definitions.lookup key ≠ some (some a)

/-- The schema in a variable.  One of the variables is being rewritten, and is shown as what will
become of it apart from its enumeration. -/
def shown (r : ℕ) (target : SchemaRef) (h : Heap SchemaRef) (b : ℕ) : SchemaRef :=
  if b = r then { target with enum := (h.read b).enum } else h.read b

/-- The definitions in memory. -/
def Transformer.view (r : ℕ) (target : SchemaRef) (t : Transformer) : View :=
  fun key => (t.definitions.lookup key).map (Option.map (shown r target t.heap))

section Memory

variable {t : Transformer} {key key' : String} {a b r : ℕ} {s target : SchemaRef}
  {f : SchemaRef → SchemaRef}

theorem Transformer.lookup_define :
    (t.define key s).definitions.lookup key' =
      if key' = key then some (some t.heap.size) else t.definitions.lookup key' := by
  by_cases hkey : key' = key
  · rw [if_pos hkey, hkey]
    exact AList.lookup_insert _
  · rw [if_neg hkey]
    exact AList.lookup_insert_ne hkey

theorem Transformer.size_define : (t.define key s).heap.size = t.heap.size + 1 :=
  Heap.size_alloc _ _

theorem Transformer.read_define_of_lt (hb : b < t.heap.size) :
    (t.define key s).heap.read b = t.heap.read b :=
  Heap.read_alloc_of_lt hb

theorem Transformer.size_modify : (t.modify a f).heap.size = t.heap.size := Heap.size_write _ _ _

theorem Transformer.read_modify_self (ha : a < t.heap.size) :
    (t.modify a f).heap.read a = f (t.heap.read a) :=
  Heap.read_write_self ha

theorem Transformer.read_modify_ne (hab : a ≠ b) :
    (t.modify a f).heap.read b = t.heap.read b :=
  Heap.read_write_ne hab

theorem Transformer.WellFormed.modify (h : t.WellFormed) : (t.modify a f).WellFormed :=
  ⟨fun key b hb => by
    rw [size_modify]
    exact h.inRange key b hb, h.distinct⟩

/-- A new definition has an address of its own. -/
theorem Transformer.WellFormed.define (h : t.WellFormed) : (t.define key s).WellFormed := by
  refine ⟨fun key' b hb => ?_, fun key' key'' b hb hb' => ?_⟩
  · rw [lookup_define] at hb
    rw [size_define]
    split_ifs at hb with hkey'
    · obtain rfl := Option.some.inj (Option.some.inj hb)
      omega
    · have hlt := h.inRange key' b hb
      omega
  · rw [lookup_define] at hb hb'
    split_ifs at hb hb' with hkey' hkey'' hkey''
    · rw [hkey', hkey'']
    · obtain rfl := Option.some.inj (Option.some.inj hb)
      exact absurd (h.inRange key'' _ hb') (by omega)
    · obtain rfl := Option.some.inj (Option.some.inj hb')
      exact absurd (h.inRange key' _ hb) (by omega)
    · exact h.distinct key' key'' b hb hb'

/-! ## What is shown of them -/

theorem Transformer.view_congr {t' : Transformer}
    (hdefinitions : t'.definitions = t.definitions)
    (h : ∀ key b, t.definitions.lookup key = some (some b) →
      shown r target t'.heap b = shown r target t.heap b) :
    t'.view r target = t.view r target := by
  funext key
  rw [view, view, hdefinitions]
  cases hkey : t.definitions.lookup key with
  | none => rfl
  | some c =>
    cases c with
    | none => rfl
    | some b => exact congrArg (fun s => some (some s)) (h key b hkey)

/-- A change to the variable that is being rewritten, or to one that is no definition. -/
theorem Transformer.view_modify (ha : a < t.heap.size) (hown : a = r ∨ t.Loose a)
    (henum : (f (t.heap.read a)).enum = (t.heap.read a).enum) :
    (t.modify a f).view r target = t.view r target := by
  refine view_congr rfl fun key b hb => ?_
  rw [shown, shown]
  by_cases hab : a = b
  · subst hab
    rw [if_pos (hown.resolve_right fun hloose => hloose key hb), read_modify_self ha, henum,
      if_pos (hown.resolve_right fun hloose => hloose key hb)]
  · rw [read_modify_ne hab]

/-- Values are added to the enumeration of a definition. -/
theorem Transformer.view_enrich (h : t.WellFormed) (hkey : t.definitions.lookup key = some (some b))
    (extra : List String) :
    (t.view r target).enrich key extra
      = some ((t.modify b (SchemaRef.enrich extra)).view r target) := by
  have hview : t.view r target key = some (some (shown r target t.heap b)) := by
    rw [view, hkey]
    rfl
  rw [View.enrich_of_some hview]
  refine congrArg some (funext fun key' => ?_)
  have hlookup : (t.modify b (SchemaRef.enrich extra)).definitions.lookup key'
      = t.definitions.lookup key' := rfl
  by_cases hkey' : key' = key
  · subst hkey'
    rw [View.define_self, view, hlookup, hkey]
    refine congrArg (fun s => some (some s)) ?_
    rw [shown, shown, read_modify_self (h.inRange key' b hkey)]
    split_ifs <;> rfl
  · rw [View.define_of_ne hkey', view, view, hlookup]
    cases hc : t.definitions.lookup key' with
    | none => rfl
    | some c =>
      cases c with
      | none => rfl
      | some c =>
        have hne : b ≠ c := fun heq => hkey' (h.distinct key' key c hc (heq ▸ hkey))
        refine congrArg (fun s => some (some s)) ?_
        rw [shown, shown, read_modify_ne hne]

theorem Transformer.view_alloc (h : t.WellFormed) (v : SchemaRef) :
    ({ t with heap := t.heap.alloc v } : Transformer).view r target = t.view r target := by
  refine view_congr rfl fun key b hb => ?_
  rw [shown, shown, Heap.read_alloc_of_lt (h.inRange key b hb)]

theorem Transformer.view_define (h : t.WellFormed) (hr : r < t.heap.size) :
    (t.define key s).view r target = (t.view r target).define key s := by
  funext key'
  rw [view, lookup_define]
  split_ifs with hkey
  · rw [hkey, View.define_self]
    refine congrArg (fun s => some (some s)) ?_
    rw [shown, if_neg (Nat.ne_of_gt hr)]
    exact Heap.read_alloc_self t.heap s
  · rw [View.define_of_ne hkey, view]
    cases hc : t.definitions.lookup key' with
    | none => rfl
    | some c =>
      cases c with
      | none => rfl
      | some c =>
        refine congrArg (fun s => some (some s)) ?_
        rw [shown, shown, read_define_of_lt (h.inRange key' c hc)]

end Memory

/-! ## What stays in memory -/

/-- What stays in memory while the schema in a variable is visited: other schemas change in their
enumerations, and those that are no definitions do not change at all. -/
structure Frames (a : ℕ) (t t' : Transformer) : Prop where
  size_le : t.heap.size ≤ t'.heap.size
  wellFormed : t.WellFormed → t'.WellFormed
  loose : ∀ b < t.heap.size, t.Loose b →
    t'.Loose b ∧ (t'.heap.read b).enum = (t.heap.read b).enum
  others : ∀ b < t.heap.size, b ≠ a → (t'.heap.read b).eraseEnum = (t.heap.read b).eraseEnum

namespace Frames

variable {a a' b : ℕ} {t t' t'' : Transformer} {key : String} {s : SchemaRef}

theorem refl (a : ℕ) (t : Transformer) : Frames a t t :=
  ⟨le_rfl, id, fun _ _ h => ⟨h, rfl⟩, fun _ _ _ => rfl⟩

theorem trans (h : Frames a t t') (h' : Frames a' t' t'') (ha : a' = a ∨ t.heap.size ≤ a') :
    Frames a t t'' where
  size_le := h.size_le.trans h'.size_le
  wellFormed := fun ht => h'.wellFormed (h.wellFormed ht)
  loose := fun b hb hloose => by
    obtain ⟨hloose', henum⟩ := h.loose b hb hloose
    obtain ⟨hloose'', henum'⟩ := h'.loose b (hb.trans_le h.size_le) hloose'
    exact ⟨hloose'', henum'.trans henum⟩
  others := fun b hb hne => by
    have hne' : b ≠ a' := by
      rintro rfl
      rcases ha with rfl | ha
      · exact hne rfl
      · omega
    exact (h'.others b (hb.trans_le h.size_le) hne').trans (h.others b hb hne)

/-- The variable is changed. -/
theorem modify {f : SchemaRef → SchemaRef}
    (henum : (f (t.heap.read a)).enum = (t.heap.read a).enum) : Frames a t (t.modify a f) where
  size_le := Transformer.size_modify.ge
  wellFormed := Transformer.WellFormed.modify
  loose := fun b hb hloose => by
    refine ⟨hloose, ?_⟩
    by_cases hab : a = b
    · subst hab
      rw [Transformer.read_modify_self hb, henum]
    · rw [Transformer.read_modify_ne hab]
  others := fun b _ hne => by rw [Transformer.read_modify_ne (Ne.symm hne)]

theorem enrich (hkey : t.definitions.lookup key = some (some b)) (extra : List String) :
    Frames a t (t.modify b (SchemaRef.enrich extra)) where
  size_le := Transformer.size_modify.ge
  wellFormed := Transformer.WellFormed.modify
  loose := fun c _ hloose => by
    have hne : b ≠ c := fun hbc => hloose key (hbc ▸ hkey)
    exact ⟨hloose, by rw [Transformer.read_modify_ne hne]⟩
  others := fun c hc _ => by
    by_cases hbc : b = c
    · subst hbc
      rw [Transformer.read_modify_self hc, SchemaRef.eraseEnum_enrich]
    · rw [Transformer.read_modify_ne hbc]

theorem mark (a : ℕ) (t : Transformer) (visited : List String) :
    Frames a t { t with visited := visited } :=
  ⟨le_rfl, fun h => ⟨h.inRange, h.distinct⟩, fun _ _ h => ⟨h, rfl⟩, fun _ _ _ => rfl⟩

theorem alloc (a : ℕ) (t : Transformer) (v : SchemaRef) :
    Frames a t { t with heap := t.heap.alloc v } where
  size_le := by simp
  wellFormed := fun h => ⟨fun key b hb => by
    have hlt := h.inRange key b hb
    simp only [Heap.size_alloc]
    omega, h.distinct⟩
  loose := fun b hb hloose => ⟨hloose, by rw [Heap.read_alloc_of_lt hb]⟩
  others := fun b hb _ => by rw [Heap.read_alloc_of_lt hb]

theorem define (a : ℕ) (t : Transformer) (key : String) (s : SchemaRef) :
    Frames a t (t.define key s) where
  size_le := by rw [Transformer.size_define]; omega
  wellFormed := Transformer.WellFormed.define
  loose := fun b hb hloose => by
    refine ⟨fun key' hkey' => ?_, by rw [Transformer.read_define_of_lt hb]⟩
    rw [Transformer.lookup_define] at hkey'
    split_ifs at hkey'
    · exact absurd (Option.some.inj (Option.some.inj hkey')) (by omega)
    · exact hloose key' hkey'
  others := fun b hb _ => by rw [Transformer.read_define_of_lt hb]

end Frames

/-- The state after the schema in a variable has been visited, and what this means for the
definitions. -/
structure After (r : ℕ) (target : SchemaRef) (a : ℕ) (node : SchemaRef) (keys : List String)
    (t t' : Transformer) (d : View) : Prop where
  frames : Frames a t t'
  view : t'.view r target = d
  own : (t'.heap.read a).eraseEnum = node.eraseEnum
  visited : ∀ k, k ∈ t'.visited ↔ k ∈ t.visited ∨ k ∈ keys

/-- A state in which the schema in a variable can be visited: the variable is the one that is
being rewritten, or it is no definition. -/
structure Before (r a : ℕ) (t : Transformer) : Prop where
  wellFormed : t.WellFormed
  rewritten : r < t.heap.size
  inRange : a < t.heap.size
  own : a = r ∨ t.Loose a

theorem Before.of_frames {r a a' : ℕ} {t t' : Transformer} (h : Before r a t)
    (hframes : Frames a' t t') : Before r a t' :=
  ⟨hframes.wellFormed h.wellFormed, h.rewritten.trans_le hframes.size_le,
    h.inRange.trans_le hframes.size_le,
    h.own.imp_right fun hloose => (hframes.loose a h.inRange hloose).1⟩

/-! ## Passing on enumerations -/

section Passing

variable {r a : ℕ} {target : SchemaRef} {t : Transformer}

/-- One turn of the loop over the properties. -/
theorem propogateToProperty_after (target : SchemaRef) (h : Before r a t) (name : String) :
    Option.Rel (After r target a ((t.heap.read a).passWithin (t.heap.read a) name) [] t)
      (propogateToProperty a t name) ((t.heap.read a).passTo (t.view r target) name) := by
  unfold propogateToProperty SchemaRef.passTo SchemaRef.passWithin
  dsimp only
  cases hlookup : (t.heap.read a).properties.lookup name with
  | none => exact .some ⟨Frames.refl a t, rfl, rfl, by simp⟩
  | some property =>
    cases property with
    | none => exact .none
    | some property =>
      simp only [Option.join_some]
      cases hadded : (t.heap.read a).addedEnums name with
      | none => exact .none
      | some extra =>
        simp only [Option.bind_some, Option.getD_some]
        split_ifs with href
        · -- the property is part of the schema
          refine .some ⟨Frames.modify rfl, Transformer.view_modify h.inRange h.own rfl, ?_, by
            simp [Transformer.modify]⟩
          rw [Transformer.read_modify_self h.inRange]
        · cases hkey : (t.definitions.lookup property.refName).join with
          | none =>
            have hview : (t.view r target property.refName).join = none := by
              rw [Transformer.view]
              rcases Option.join_eq_none_iff.1 hkey with hkey | hkey <;> rw [hkey] <;> rfl
            rw [View.enrich_of_none hview]
            exact .none
          | some b =>
            have hb := Option.join_eq_some_iff.1 hkey
            rw [Transformer.view_enrich h.wellFormed hb]
            refine .some ⟨Frames.enrich hb extra, rfl, ?_, by simp [Transformer.modify]⟩
            by_cases hab : b = a
            · subst hab
              rw [Transformer.read_modify_self h.inRange, SchemaRef.eraseEnum_enrich]
            · rw [Transformer.read_modify_ne hab]

/-- The loop over the properties, in some order, of a schema that passes on the same as `s`. -/
theorem foldlM_propogateToProperty_after (s : SchemaRef) (names : List String) :
    ∀ {t : Transformer} {s' : SchemaRef}, Before r a t → PassesAlike s s' →
      (t.heap.read a).eraseEnum = s'.eraseEnum →
        Option.Rel (After r target a (names.foldl s.passWithin s') [] t)
          (names.foldlM (propogateToProperty a) t) (names.foldlM s.passTo (t.view r target)) := by
  induction names with
  | nil =>
    intro t s' _ _ hread
    exact .some ⟨Frames.refl a t, rfl, hread, by simp⟩
  | cons name names ih =>
    intro t s' h halike hread
    have halike' : PassesAlike s (t.heap.read a) :=
      halike.trans (PassesAlike.of_eraseEnum hread)
    have hstep := propogateToProperty_after target h name
    rw [halike'.passTo, halike'.passWithin_eq] at hstep
    rw [Loops.foldlM_cons_bind, Loops.foldlM_cons_bind]
    refine Loops.rel_bind hstep fun t₁ d₁ hafter => ?_
    have hread₁ : (t₁.heap.read a).eraseEnum = (s.passWithin s' name).eraseEnum :=
      hafter.own.trans (SchemaRef.eraseEnum_passWithin s hread name)
    have hrest := ih (h.of_frames hafter.frames)
      (halike.trans (PassesAlike.passWithin s s' name)) hread₁
    rw [hafter.view] at hrest
    refine Loops.rel_mono hrest fun t₂ d₂ hafter₂ => ⟨hafter.frames.trans hafter₂.frames
      (Or.inl rfl), hafter₂.view, hafter₂.own, fun k => ?_⟩
    rw [hafter₂.visited, hafter.visited, or_assoc]
    simp

/-- `propogateEnum` does what the schema passes on. -/
theorem propogateEnum_after (target : SchemaRef) (order : IterationOrder) (key : String)
    {s : SchemaRef} (h : Before r a t) (hread : (t.heap.read a).eraseEnum = s.eraseEnum) :
    Option.Rel (After r target a s.passInline [] t) (propogateEnum order key a t)
      (s.passOn (t.view r target)) := by
  have hnames : (t.heap.read a).properties.map Prod.fst = s.properties.map Prod.fst :=
    (congrArg (fun s : SchemaRef => s.properties.map Prod.fst) hread :)
  have hperm := order.properties_perm key (s.properties.map Prod.fst)
  rw [propogateEnum, hnames, ← SchemaRef.passOn_perm hperm, ← SchemaRef.passInline_perm hperm]
  exact foldlM_propogateToProperty_after s _ h (PassesAlike.refl s) hread

end Passing

/-! ## Visits -/

section Visits

variable {quote : String → String} {order : IterationOrder} {r a : ℕ} {target : SchemaRef}
  {t : Transformer} {key : String} {s : SchemaRef} {visited : List String}

theorem transformSchema_of_visited (h : key ∈ t.visited) :
    transformSchema quote order key a s t = some t := by
  obtain ⟨_, _, _, _, _, _, _, _, _, _, _, _, _, _, _⟩ := s
  rw [transformSchema, if_pos h]

theorem transformSchema_of_not_visited (h : key ∉ t.visited) :
    transformSchema quote order key a s t = (applies key s).bind fun union =>
      if union then
        (oneOfRefsTransform quote order a s.oneOf { t with visited := key :: t.visited }).bind
          fun t => propogateEnum order key a
            (nameOptions quote key a (alternativeNames s.alternatives) t)
      else propogateEnum order key a { t with visited := key :: t.visited } := by
  obtain ⟨_, _, _, _, _, _, _, _, _, _, _, _, _, _, _⟩ := s
  rw [transformSchema, if_neg h]

/-- The names of a union are defined, and the union refers to them. -/
theorem nameOptions_after (quote : String → String) (target : SchemaRef) (h : Before r a t)
    (key : String) (options : List String)
    {alternatives : List (String × SchemaRef)}
    (hread : (t.heap.read a).eraseEnum = (s.withProperties alternatives).eraseEnum) :
    After r target a (s.restructured quote key options alternatives) [] t
      (nameOptions quote key a options t)
      ((t.view r target).define (nameDefinitionKey key) (nameSchema quote options)) := by
  have hdefine := Frames.define a t (nameDefinitionKey key) (nameSchema quote options)
  have hbefore := h.of_frames hdefine
  refine ⟨hdefine.trans (Frames.modify rfl) (Or.inl rfl), ?_, ?_, by
    simp [nameOptions, Transformer.modify, Transformer.define]⟩
  · rw [nameOptions, Transformer.view_modify hbefore.inRange hbefore.own rfl,
      Transformer.view_define h.wellFormed h.rewritten]
  · rw [nameOptions, Transformer.read_modify_self hbefore.inRange,
      Transformer.read_define_of_lt h.inRange]
    have hclose : ∀ s : SchemaRef, (s.close quote key options).eraseEnum
        = s.eraseEnum.close quote key options := fun _ => rfl
    rw [SchemaRef.restructured, hclose, hclose, hread]

/-- A run in memory makes of a variable and of the definitions what a visit makes of them. -/
def Does (quote : String → String) (r : ℕ) (target : SchemaRef) (a : ℕ) (t : Transformer)
    (visit : Visit) (run : Option Transformer) : Prop :=
  Option.Rel (After r target a visit.node (visit.stops.map Stop.key) t) run
    (runStops quote (t.view r target) visit.stops)

/-- The visits to the alternatives of a schema. -/
def SchemaRef.withOutcomes (s : SchemaRef) (outcomes : List (String × SchemaRef) × List Stop) :
    Visit :=
  ⟨s.withProperties outcomes.1, outcomes.2⟩

theorem does_nothing (hread : (t.heap.read a).eraseEnum = s.eraseEnum) :
    Does quote r target a t (s.withOutcomes ([], [])) (some t) :=
  .some ⟨Frames.refl a t, rfl, by rw [SchemaRef.withOutcomes, SchemaRef.withProperties_nil, hread],
    by simp [SchemaRef.withOutcomes]⟩

/-- What a visit does, if this is known of the alternatives. -/
theorem transformSchema_after_of_alternatives
    (halternatives : ∀ {t : Transformer} {visited : List String}, Before r a t →
      (t.heap.read a).eraseEnum = s.eraseEnum → (∀ k, k ∈ t.visited ↔ k ∈ visited) →
        Does quote r target a t (s.withOutcomes (optionalOutcomes quote s.oneOf visited))
          (oneOfRefsTransform quote order a s.oneOf t))
    (h : Before r a t) (hread : t.heap.read a = s) (hvisited : ∀ k, k ∈ t.visited ↔ k ∈ visited) :
    Does quote r target a t (outcome quote key s visited)
      (transformSchema quote order key a s t) := by
  rw [Does]
  by_cases hkey : key ∈ visited
  · rw [outcome_of_visited hkey, transformSchema_of_visited ((hvisited key).2 hkey)]
    exact .some ⟨Frames.refl a t, rfl, by rw [hread], by simp⟩
  have hkey' : key ∉ t.visited := fun hmem => hkey ((hvisited key).1 hmem)
  rw [transformSchema_of_not_visited hkey']
  -- the key is marked before anything else happens
  have hmark := Frames.mark a t (key :: t.visited)
  have hbefore := h.of_frames hmark
  have hmarked : ∀ k, k ∈ key :: t.visited ↔ k ∈ key :: visited := fun k => by
    rw [List.mem_cons, List.mem_cons, hvisited]
  by_cases hunion : applies key s = some true
  · rw [outcome_of_union hkey hunion, hunion, runStops_append]
    simp only [Option.bind_some, if_true]
    refine Loops.rel_bind (halternatives hbefore (by rw [hread]) hmarked) ?_
    intro t₁ d₁ hloop
    have hbefore₁ := hbefore.of_frames hloop.frames
    have hnames := nameOptions_after quote target hbefore₁ key (alternativeNames s.alternatives) hloop.own
    have hpass := propogateEnum_after target order key (hbefore₁.of_frames hnames.frames)
      hnames.own
    rw [hnames.view, hloop.view, passOn_restructured hunion] at hpass
    rw [runStops_singleton, Stop.run_eraseEnum, hunion, Option.bind_some, if_pos rfl]
    refine Loops.rel_mono hpass fun t₂ d₂ hafter => ⟨?_, hafter.view, hafter.own, fun k => ?_⟩
    · exact ((hmark.trans hloop.frames (Or.inl rfl)).trans hnames.frames (Or.inl rfl)).trans
        hafter.frames (Or.inl rfl)
    · rw [hafter.visited, hnames.visited, hloop.visited, List.map_append, List.mem_append,
        List.mem_cons]
      simp only [List.map_cons, List.map_nil, List.mem_singleton, List.not_mem_nil, or_false]
      tauto
  · rw [outcome_of_not_union hkey hunion, runStops_singleton, Stop.run_eraseEnum]
    cases happlies : applies key s with
    | none => exact .none
    | some union =>
      have hfalse : union = false := by
        cases union with
        | false => rfl
        | true => exact absurd happlies hunion
      subst hfalse
      simp only [Option.bind_some, Bool.false_eq_true, if_false]
      refine Loops.rel_mono (propogateEnum_after target order key hbefore
        (s := s) (by rw [hread])) fun t₁ d₁ hafter => ⟨hmark.trans hafter.frames (Or.inl rfl),
          hafter.view, hafter.own, fun k => ?_⟩
      rw [hafter.visited, List.mem_cons]
      simp only [List.map_cons, List.map_nil, List.mem_singleton, List.not_mem_nil, or_false]
      tauto

/-- What the visits to alternatives do, if this is known of the first one and of the others. -/
theorem transformAlternatives_after_cons {v : SchemaRef} {alternatives : List (Option SchemaRef)}
    (hfirst : ∀ {a : ℕ} {t : Transformer} {visited : List String} (key : String),
      Before r a t → t.heap.read a = v → (∀ k, k ∈ t.visited ↔ k ∈ visited) →
        Does quote r target a t (outcome quote key v visited)
          (transformSchema quote order key a v t))
    (hothers : ∀ {t : Transformer} {s : SchemaRef} {visited : List String}, Before r a t →
      (t.heap.read a).eraseEnum = s.eraseEnum → (∀ k, k ∈ t.visited ↔ k ∈ visited) →
        Does quote r target a t (s.withOutcomes (outcomes quote alternatives visited))
          (transformAlternatives quote order a alternatives t))
    (h : Before r a t) (hread : (t.heap.read a).eraseEnum = s.eraseEnum)
    (hvisited : ∀ k, k ∈ t.visited ↔ k ∈ visited) :
    Does quote r target a t (s.withOutcomes (outcomes quote (some v :: alternatives) visited))
      (transformAlternatives quote order a (some v :: alternatives) t) := by
  rw [Does, transformAlternatives, outcomes, SchemaRef.withOutcomes, runStops_append]
  -- the alternative is a new variable
  have halloc := Frames.alloc a t v
  have hwf := halloc.wellFormed h.wellFormed
  have hsize : ({ t with heap := t.heap.alloc v } : Transformer).heap.size = t.heap.size + 1 := by
    simp
  have hbefore : Before r t.heap.size { t with heap := t.heap.alloc v } :=
    ⟨hwf, by have := h.rewritten; omega, by omega,
      Or.inr fun key hkey => absurd (h.wellFormed.inRange key _ hkey) (lt_irrefl _)⟩
  have hvisit := hfirst (alternativeKey v) hbefore (Heap.read_alloc_self t.heap v) hvisited
  rw [Does, Transformer.view_alloc h.wellFormed] at hvisit
  refine Loops.rel_bind hvisit fun t₁ d₁ hafter => ?_
  have hframes : Frames a t t₁ := halloc.trans hafter.frames (Or.inr le_rfl)
  have hbefore₁ := h.of_frames hframes
  -- it is read from memory as what has become of it
  have hnode : t₁.heap.read t.heap.size = (outcome quote (alternativeKey v) v visited).node := by
    refine SchemaRef.eq_of_eraseEnum hafter.own ?_
    rw [(hafter.frames.loose _ hbefore.inRange (hbefore.own.resolve_left fun heq => ?_)).2,
      (outcome_node quote _ v visited).2]
    · exact congrArg SchemaRef.enum (Heap.read_alloc_self t.heap v)
    · have := h.rewritten
      omega
  have hset := Frames.modify (a := a) (t := t₁) (f := fun s =>
    s.setProperty (alternativeName v) (t₁.heap.read t.heap.size)) rfl
  have hread₁ : ((t₁.modify a fun s => s.setProperty (alternativeName v)
      (t₁.heap.read t.heap.size)).heap.read a).eraseEnum
        = (s.setProperty (alternativeName v)
            (outcome quote (alternativeKey v) v visited).node).eraseEnum := by
    have hsame : (t₁.heap.read a).eraseEnum = s.eraseEnum := by
      rw [hafter.frames.others a (h.inRange.trans_le halloc.size_le) (Nat.ne_of_lt h.inRange),
        Heap.read_alloc_of_lt h.inRange, hread]
    rw [Transformer.read_modify_self hbefore₁.inRange, hnode]
    change (t₁.heap.read a).eraseEnum.setProperty _ _ = s.eraseEnum.setProperty _ _
    rw [hsame]
  have hvisited₁ : ∀ k, k ∈ t₁.visited ↔
      k ∈ (outcome quote (alternativeKey v) v visited).stops.map Stop.key ++ visited := by
    intro k
    rw [List.mem_append, ← hvisited, or_comm]
    exact hafter.visited k
  have hrest := hothers (hbefore₁.of_frames hset) hread₁ hvisited₁
  rw [Does, Transformer.view_modify hbefore₁.inRange hbefore₁.own rfl, hafter.view] at hrest
  refine Loops.rel_mono hrest fun t₂ d₂ hafter₂ => ⟨(hframes.trans hset (Or.inl rfl)).trans
    hafter₂.frames (Or.inl rfl), hafter₂.view, hafter₂.own, fun k => ?_⟩
  rw [hafter₂.visited, List.map_append, List.mem_append, ← or_assoc]
  exact or_congr (hafter.visited k) Iff.rfl

mutual

/-- **Visits do what their stops do.** -/
theorem transformSchema_after : (s : SchemaRef) → ∀ {a : ℕ} {t : Transformer}
    {visited : List String} (key : String), Before r a t → t.heap.read a = s →
      (∀ k, k ∈ t.visited ↔ k ∈ visited) →
        Does quote r target a t (outcome quote key s visited)
          (transformSchema quote order key a s t)
  | ⟨_, _, _, _, _, _, _, _, oneOf, _, _, _, _, _, _⟩ => fun _ h hread hvisited =>
    transformSchema_after_of_alternatives (fun h hread hvisited =>
      oneOfRefsTransform_after oneOf h hread hvisited) h hread hvisited
termination_by structural s => s

theorem oneOfRefsTransform_after : (oneOf : Option (List (Option SchemaRef))) →
    ∀ {a : ℕ} {t : Transformer} {s : SchemaRef} {visited : List String}, Before r a t →
      (t.heap.read a).eraseEnum = s.eraseEnum → (∀ k, k ∈ t.visited ↔ k ∈ visited) →
        Does quote r target a t (s.withOutcomes (optionalOutcomes quote oneOf visited))
          (oneOfRefsTransform quote order a oneOf t)
  | none => fun _ hread _ => does_nothing hread
  | some alternatives => fun h hread hvisited =>
    transformAlternatives_after alternatives h hread hvisited
termination_by structural oneOf => oneOf

theorem transformAlternatives_after : (alternatives : List (Option SchemaRef)) →
    ∀ {a : ℕ} {t : Transformer} {s : SchemaRef} {visited : List String}, Before r a t →
      (t.heap.read a).eraseEnum = s.eraseEnum → (∀ k, k ∈ t.visited ↔ k ∈ visited) →
        Does quote r target a t (s.withOutcomes (outcomes quote alternatives visited))
          (transformAlternatives quote order a alternatives t)
  | [] => fun _ hread _ => does_nothing hread
  | none :: _ => fun _ _ _ => by
    rw [Does, transformAlternatives, outcomes]
    exact runStops_singleton _ _ _ ▸ .none
  | some v :: alternatives => fun h hread hvisited =>
    transformAlternatives_after_cons (fun key h hread hvisited =>
      transformSchema_after v key h hread hvisited) (fun h hread hvisited =>
        transformAlternatives_after alternatives h hread hvisited) h hread hvisited
termination_by structural alternatives => alternatives

end

end Visits

/-! ## The loop over the definitions -/

/-- The state of the loop of `transform`, in memory and without it. -/
structure Refines (t : Transformer) (st : View × List String) : Prop where
  wellFormed : t.WellFormed
  view : ∀ key, t.read.lookup key = st.1 key
  visited : ∀ k, k ∈ t.visited ↔ k ∈ st.2

section Loop

variable {quote : String → String} {order : IterationOrder} {t : Transformer}
  {st : View × List String}

theorem Transformer.lookup_read (t : Transformer) (key : String) :
    t.read.lookup key = (t.definitions.lookup key).map (Option.map t.heap.read) :=
  GoMap.lookup_mapVal _ _ _

/-- The definition that is being rewritten has become what is shown of it. -/
theorem Transformer.view_eq_read {r : ℕ} {target : SchemaRef}
    (h : (t.heap.read r).eraseEnum = target.eraseEnum) (key : String) :
    t.read.lookup key = t.view r target key := by
  have hshown : ∀ b, shown r target t.heap b = t.heap.read b := by
    intro b
    rw [shown]
    split_ifs with hb
    · subst hb
      exact SchemaRef.eq_of_eraseEnum (h.symm ▸ rfl) rfl
    · rfl
  rw [lookup_read, view, funext hshown]

/-- Before a visit, what is shown of a definition is what will become of it. -/
theorem Transformer.view_of_lookup (h : t.WellFormed) {key : String} {a : ℕ}
    (hkey : t.definitions.lookup key = some (some a)) {node : SchemaRef}
    (henum : node.enum = (t.heap.read a).enum) (d : View) (hd : ∀ k, t.read.lookup k = d k) :
    t.view a node = d.define key node := by
  funext key'
  by_cases hkey' : key' = key
  · rw [hkey', View.define_self, view, hkey]
    refine congrArg (fun s => some (some s)) ?_
    rw [shown, if_pos rfl, ← henum]
    obtain ⟨_, _, _, _, _, _, _, _, _, _, _, _, _, _, _⟩ := node
    rfl
  · rw [View.define_of_ne hkey', ← hd, lookup_read, view]
    cases hc : t.definitions.lookup key' with
    | none => rfl
    | some c =>
      cases c with
      | none => rfl
      | some c =>
        have hne : c ≠ a := fun heq => hkey' (h.distinct key' key c hc (heq ▸ hkey))
        refine congrArg (fun s => some (some s)) ?_
        rw [shown, if_neg hne]

/-- A visit takes the turn of its definition. -/
theorem visit_refines (h : Refines t st) (key : String) :
    Option.Rel Refines (visit quote order t key) (turn quote st key) := by
  have hview := h.view key
  rw [Transformer.lookup_read] at hview
  unfold visit turn
  cases hkey : t.definitions.lookup key with
  | none =>
    rw [hkey] at hview
    rw [← hview]
    exact .some h
  | some c =>
    cases c with
    | none =>
      rw [hkey] at hview
      rw [← hview]
      simp only [Option.map_some, Option.map_none, h.visited]
      split_ifs
      · exact .some h
      · exact .none
    | some a =>
      rw [hkey] at hview
      rw [← hview]
      simp only [Option.map_some]
      by_cases hvisited : key ∈ st.2
      · rw [if_pos hvisited, transformSchema_of_visited ((h.visited key).2 hvisited)]
        exact .some h
      · rw [if_neg hvisited]
        have hlt := h.wellFormed.inRange key a hkey
        have hafter : Does quote a (outcome quote key (t.heap.read a) st.2).node a t
            (outcome quote key (t.heap.read a) st.2)
            (transformSchema quote order key a (t.heap.read a) t) :=
          transformSchema_after (t.heap.read a) key ⟨h.wellFormed, hlt, hlt, Or.inl rfl⟩ rfl
            h.visited
        rw [Does, Transformer.view_of_lookup h.wellFormed hkey
          (outcome_node quote key (t.heap.read a) st.2).2 st.1 h.view] at hafter
        rw [← Option.bind_fun_some (transformSchema quote order key a (t.heap.read a) t),
          Option.map_eq_bind]
        refine Loops.rel_bind hafter fun t' d' hafter => .some ⟨hafter.frames.wellFormed
          h.wellFormed, fun key => ?_, fun k => ?_⟩
        · rw [Transformer.view_eq_read hafter.own, hafter.view]
        · rw [hafter.visited, h.visited, List.mem_append]

theorem Refines.loadDefinition {m : GoMap String (Option SchemaRef)}
    (h : Refines t (m.lookup, [])) (key : String) (schema : Option SchemaRef) :
    Refines (t.loadDefinition key schema) ((m.set key schema).lookup, []) := by
  have hset : ∀ {V : Type} (m : GoMap String V) (v : V) k, (m.set key v).lookup k
      = if k = key then some v else m.lookup k := by
    intro V m v k
    split_ifs with hk
    · rw [hk]
      exact AList.lookup_insert _
    · exact AList.lookup_insert_ne hk
  have hread := fun k => (Transformer.lookup_read t k).symm.trans (h.view k)
  cases schema with
  | none =>
    refine ⟨⟨fun k a ha => ?_, fun k k' a ha ha' => ?_⟩, fun k => ?_, h.visited⟩
    · rw [Transformer.loadDefinition, hset] at ha
      split_ifs at ha
      · cases ha
      · exact h.wellFormed.inRange k a ha
    · rw [Transformer.loadDefinition, hset] at ha ha'
      split_ifs at ha ha'
      · cases ha
      · cases ha
      · cases ha'
      · exact h.wellFormed.distinct k k' a ha ha'
    · refine Eq.trans ?_ (hset m none k).symm
      rw [Transformer.lookup_read, Transformer.loadDefinition, hset]
      split_ifs
      · rfl
      · exact hread k
  | some schema =>
    refine ⟨h.wellFormed.define, fun k => ?_, h.visited⟩
    refine Eq.trans ?_ (hset m (some schema) k).symm
    rw [Transformer.lookup_read, Transformer.loadDefinition, Transformer.lookup_define]
    split_ifs
    · exact congrArg (fun s => some (some s)) (Heap.read_alloc_self _ _)
    · refine Eq.trans (Option.map_congr fun c hc => Option.map_congr fun a ha => ?_) (hread k)
      exact Transformer.read_define_of_lt (h.wellFormed.inRange k a (ha ▸ hc))

/-- Definitions are found in memory as they were loaded. -/
theorem refines_load (definitions : GoMap String (Option SchemaRef)) :
    Refines (Transformer.load definitions) (definitions.lookup, []) := by
  have hloop : ∀ l : List (String × Option SchemaRef),
      Refines (l.foldl (fun t ks => t.loadDefinition ks.1 ks.2)
        { heap := ⟨[]⟩, definitions := ∅, visited := [] }) ((GoMap.ofList l).lookup, []) := by
    intro l
    induction l using List.reverseRecOn with
    | nil =>
      refine ⟨⟨fun key a ha => ?_, fun key key' a ha => ?_⟩, fun key => rfl, fun k => Iff.rfl⟩
      · cases ha
      · cases ha
    | append_singleton l ks ih =>
      rw [List.foldl_append, List.foldl_cons, List.foldl_nil, GoMap.ofList,
        GoMap.setAll_append, GoMap.setAll_cons, GoMap.setAll_nil]
      exact ih.loadDefinition ks.1 ks.2
  obtain ⟨hwf, hread, hvisited⟩ := hloop definitions.pairs
  refine ⟨hwf, fun key => (hread key).trans ?_, hvisited⟩
  have hpairs := GoMap.lookup_ofList_map_pairs definitions (fun _ s => s) key
  simpa using hpairs

/-- The loop of `transform` takes the turns of the definitions. -/
theorem foldlM_visit_refines (quote : String → String) (order : IterationOrder)
    (keys : List String) (h : Refines t st) :
    Option.Rel Refines (keys.foldlM (visit quote order) t) (keys.foldlM (turn quote) st) := by
  induction keys generalizing t st with
  | nil => exact .some h
  | cons key keys ih =>
    rw [Loops.foldlM_cons_bind, Loops.foldlM_cons_bind]
    exact Loops.rel_bind (visit_refines h key) fun t' st' h' => ih h'

end Loop

end Fybrik.Compile
