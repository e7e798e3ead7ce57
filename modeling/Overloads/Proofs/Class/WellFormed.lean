import Overloads.Proofs.Class.Counting
import Overloads.Proofs.Class.Invariant

/-! Descriptions of classes as programs can write them, and that programs define no others. -/
namespace Overloads

variable {w w' : World} {c : ClassName} {i : ClassInfo} {s s' : Store}
variable {entries : List (String × Attribute)} {name : String} {a : Attribute} {body : ClassBody}

/-- That the numbers from the first to the last are all there. -/
def Contiguous (counts : List Nat) : Prop :=
  counts.head?.getD 0 ≤ counts.getLast?.getD 0 ∧
    ∀ n ≤ counts.getLast?.getD 0, counts.head?.getD 0 ≤ n → n ∈ counts

instance (s : Signature) : Decidable s.DefaultsLast :=
  inferInstanceAs (Decidable (List.Pairwise _ _))

instance (counts : List Nat) : Decidable (Contiguous counts) :=
  inferInstanceAs (Decidable (_ ∧ _))

/-- That the parameters of a function stand as the grammar asks, and native counts have no gap. -/
def Attribute.WellFormed : Attribute → Prop
  | .function _ f => f.implementation.DefaultsLast
  | .native _ counts => Contiguous counts
  | _ => True

instance : DecidablePred Attribute.WellFormed := fun a =>
  match a with
  | .function _ f => inferInstanceAs (Decidable f.implementation.DefaultsLast)
  | .native _ counts => inferInstanceAs (Decidable (Contiguous counts))
  | .unsigned _ | .special | .cached _ _ | .property | .value _ | .nested _ => .isTrue trivial

/-- That no name stands twice and that everything named is well formed. -/
def EntriesWellFormed (entries : List (String × Attribute)) : Prop :=
  (entries.map (·.1)).Nodup ∧ ∀ x ∈ entries, x.2.WellFormed

instance (entries : List (String × Attribute)) : Decidable (EntriesWellFormed entries) :=
  inferInstanceAs (Decidable (_ ∧ _))

structure ClassInfo.WellFormed (i : ClassInfo) : Prop where
  entries : EntriesWellFormed i.attributes
  counts : ∀ counts ∈ i.constructorCounts, Contiguous counts

def World.WellFormed (w : World) : Prop := ∀ i ∈ w.classes, i.WellFormed

theorem wellFormed_rows : ∀ r ∈ Native.rows,
    EntriesWellFormed r.attributes ∧ ∀ counts ∈ r.counts, Contiguous counts := by
  decide +kernel

theorem wellFormed_listings : ∀ l ∈ Installed.listings, EntriesWellFormed l.attributes := by
  decide +kernel

theorem wellFormed_native (h : Native.info? c = some i) : i.WellFormed := by
  obtain ⟨r, hr, rfl⟩ := Option.map_eq_some_iff.mp h
  obtain ⟨hentries, hcounts⟩ := wellFormed_rows r (List.mem_of_find?_eq_some hr)
  exact ⟨hentries, hcounts⟩

theorem World.WellFormed.info (hw : w.WellFormed) (h : w.info? c = some i) : i.WellFormed := by
  unfold World.info? at h
  split at h
  · rename_i found hfound
    cases h
    exact hw _ (List.mem_of_find?_eq_some hfound)
  · exact wellFormed_native h

theorem wellFormed_initial : World.initial.WellFormed := by
  intro i hi
  rcases List.mem_append.mp hi with hlisted | hforeign
  · obtain ⟨l, hl, rfl⟩ := List.mem_map.mp hlisted
    refine ⟨wellFormed_listings l hl, ?_⟩
    intro counts hcounts
    simp only [Installed.Listing.info] at hcounts
    split at hcounts
    · obtain rfl : [1, 2] = counts := by simpa using hcounts
      decide
    · simp at hcounts
  · obtain ⟨c, -, rfl⟩ := List.mem_map.mp hforeign
    refine ⟨⟨List.nodup_nil, by simp⟩, ?_⟩
    intro counts hcounts
    dsimp only at hcounts
    split at hcounts
    · obtain rfl : [1, 2] = counts := by simpa using hcounts
      decide
    · obtain rfl : [0] = counts := by simpa using hcounts
      decide

theorem not_mem_of_lookup (h : entries.lookup name = none) : name ∉ entries.map (·.1) := by
  intro hmem
  obtain ⟨x, hx, rfl⟩ := List.mem_map.mp hmem
  have hother := List.lookup_eq_none_iff.mp h x hx
  simp at hother

theorem mem_of_lookup (h : entries.lookup name = some a) : (name, a) ∈ entries := by
  obtain ⟨front, back, rfl, -⟩ := List.lookup_eq_some_iff.mp h
  simp

theorem lookup_of_mem {α : Type} {entries : List (String × α)} {a : α}
    (hnames : (entries.map (·.1)).Nodup) (h : (name, a) ∈ entries) :
    entries.lookup name = some a := by
  obtain ⟨front, back, rfl⟩ := List.append_of_mem h
  rw [List.map_append, List.map_cons, List.nodup_append] at hnames
  apply List.lookup_eq_some_iff.mpr
  refine ⟨front, back, rfl, ?_⟩
  intro x hx
  have hne := hnames.2.2 x.1 (List.mem_map_of_mem hx) name List.mem_cons_self
  simpa using hne.symm

theorem nodup_append_new (h : (entries.map (·.1)).Nodup) (hnew : name ∉ entries.map (·.1))
    (a : Attribute) : ((entries ++ [(name, a)]).map (·.1)).Nodup := by
  rw [List.map_append, List.nodup_append]
  refine ⟨h, by simp, ?_⟩
  rintro n hn k hk rfl
  obtain rfl := List.mem_singleton.mp hk
  exact hnew hn

/-- Setting a name leaves the names as they are or adds one that is new. -/
theorem nodup_setEntry (h : (entries.map (·.1)).Nodup) (name : String) (a : Attribute) :
    ((setEntry entries name a).map (·.1)).Nodup := by
  unfold setEntry
  split
  · have hnames : (entries.map fun e => if e.1 = name then (name, a) else e).map (·.1) =
        entries.map (·.1) := by
      rw [List.map_map]
      apply List.map_congr_left
      intro e _
      by_cases he : e.1 = name <;> simp [he]
    rw [hnames]
    exact h
  · rename_i hnone
    exact nodup_append_new h (by simpa using hnone) a

/-- Finishing a body gives its functions their overloads and leaves the names as they are. -/
theorem names_finish (body : ClassBody) : body.finish.map (·.1) = body.attributes.map (·.1) := by
  rw [ClassBody.finish, List.map_map]
  apply List.map_congr_left
  rintro ⟨n, a⟩ -
  cases a <;> rfl

theorem EntriesWellFormed.append_new (h : EntriesWellFormed entries)
    (hnew : name ∉ entries.map (·.1)) (ha : a.WellFormed) :
    EntriesWellFormed (entries ++ [(name, a)]) := by
  refine ⟨nodup_append_new h.1 hnew a, ?_⟩
  intro x hx
  rcases List.mem_append.mp hx with hold | hlast
  · exact h.2 x hold
  · obtain rfl := List.mem_singleton.mp hlast
    exact ha

theorem EntriesWellFormed.set (h : EntriesWellFormed entries) (ha : a.WellFormed) :
    EntriesWellFormed (setEntry entries name a) := by
  refine ⟨nodup_setEntry h.1 name a, ?_⟩
  unfold setEntry
  split
  · intro x hx
    obtain ⟨e, he, rfl⟩ := List.mem_map.mp hx
    split
    · exact ha
    · exact h.2 e he
  · rename_i hnone
    exact (h.append_new (by simpa using hnone) ha).2

theorem EntriesWellFormed.finish (h : EntriesWellFormed body.attributes) :
    EntriesWellFormed body.finish := by
  constructor
  · rw [names_finish]
    exact h.1
  · intro x hx
    obtain ⟨⟨n, a⟩, hmem, rfl⟩ := List.mem_map.mp hx
    have ha := h.2 _ hmem
    cases a <;> exact ha

theorem wellFormed_refusal (module path : List String) :
    (Attribute.function .receiver (.refusal module path)).WellFormed := by
  simp [Attribute.WellFormed, Function.refusal, Signature.DefaultsLast, Signature.positional,
    Signature.withReceiver, Signature.anyArgumentsAndKeywords, ParamKind.isPositional]

theorem wellFormed_addClass {bases : List ClassName} {protocol : Option ProtocolKind}
    (hw : w.WellFormed) (hbody : EntriesWellFormed body.attributes)
    (h : w.addClass c bases protocol body = .ok w') : w'.WellFormed := by
  obtain ⟨i, rfl, -, hcounts, hattributes⟩ := addClass_ok h
  have hfinish := hbody.finish
  intro k hk
  rcases List.mem_cons.mp hk with rfl | hold
  · refine ⟨?_, by simp [hcounts]⟩
    rcases hattributes with hplain | ⟨hnew, hrefusal⟩
    · rw [hplain]
      exact hfinish
    · rw [hrefusal]
      exact hfinish.append_new (not_mem_of_lookup hnew) (wellFormed_refusal c.module c.path)
  · exact hw k hold

/-- That the parameters of a declaration stand as the grammar asks. -/
def Declaration.DefaultsLast (d : Declaration) : Prop :=
  (d.params.filter (·.kind.isPositional)).Pairwise fun p q => p.default.isSome → q.default.isSome

def FunctionText.DefaultsLast (f : FunctionText) : Prop :=
  ∀ d ∈ f.implementation, d.DefaultsLast

/-- What a walk that makes something of each item keeps of every item, it keeps of the list. -/
theorem map_of_run_mapM {α β γ : Type} {f : α → Making β} {g : α → γ} {g' : β → γ} {l : List α}
    {l' : List β} {s s' : Store} (hf : ∀ a b s s', (f a).run s = .ok (b, s') → g' b = g a)
    (h : (l.mapM f).run s = .ok (l', s')) : l'.map g' = l.map g := by
  induction l generalizing l' s with
  | nil =>
    cases h
    rfl
  | cons a rest ih =>
    rw [List.mapM_cons, run_bind_eq_ok] at h
    obtain ⟨b, s₁, hb, h⟩ := h
    rw [run_bind_eq_ok] at h
    obtain ⟨rest', s₂, hrest, h⟩ := h
    cases h
    rw [List.map_cons, List.map_cons, hf a b s s₁ hb, ih hrest]

theorem isSome_of_run_mapM {α β : Type} {f : α → Making β} {o : Option α} {o' : Option β}
    (h : (o.mapM f).run s = .ok (o', s')) : o'.isSome = o.isSome := by
  cases o with
  | none =>
    cases h
    rfl
  | some a =>
    rw [Option.mapM_some, ← bind_pure_comp, run_bind_eq_ok] at h
    obtain ⟨b, s₁, -, h⟩ := h
    cases h
    rfl

/-- Whether defaults come last can be seen from the kinds and from where the defaults are. -/
theorem defaultsLast_iff {signature : Signature} {d : Declaration}
    (h : signature.params.map (fun p => (p.kind, p.default.isSome)) =
      d.params.map fun p => (p.kind, p.default.isSome)) :
    signature.DefaultsLast ↔ d.DefaultsLast := by
  have hpairs := congrArg (fun l => (l.filter fun x => x.1.isPositional).Pairwise
    fun x y => x.2 = true → y.2 = true) h
  simpa [List.filter_map, List.pairwise_map, Signature.DefaultsLast, Signature.positional,
    Declaration.DefaultsLast, Function.comp_def] using hpairs

theorem defaultsLast_withReceiver {signature : Signature} (receiver : String)
    (h : signature.DefaultsLast) : (signature.withReceiver receiver).DefaultsLast := by
  simpa [Signature.DefaultsLast, Signature.positional, Signature.withReceiver,
    ParamKind.isPositional] using h

theorem defaultsLast_build {postponed : Bool} {kind : FunctionKind} {d : Declaration}
    {signature : Signature} (hd : d.DefaultsLast)
    (h : (d.build w postponed kind).run s = .ok (signature, s')) : signature.DefaultsLast := by
  unfold Declaration.build at h
  rw [run_bind_eq_ok] at h
  obtain ⟨params, s₁, hparams, h⟩ := h
  have hplaces : params.map (fun p => (p.kind, p.default.isSome)) =
      d.params.map fun p => (p.kind, p.default.isSome) := by
    apply map_of_run_mapM _ hparams
    intro p q s s' hq
    rw [run_bind_eq_ok] at hq
    obtain ⟨default, s₁, hdefault, hq⟩ := hq
    cases hq
    simp [isSome_of_run_mapM hdefault]
  have hlast : Signature.DefaultsLast ⟨params, d.returns⟩ := (defaultsLast_iff hplaces).mpr hd
  dsimp only at h
  split at h
  · cases h
    split
    · exact defaultsLast_withReceiver "self" hlast
    · exact hlast
  · cases h

theorem wellFormed_shared (ha : a.WellFormed) : (ClassBody.shared a).WellFormed := by
  cases a <;> exact ha

theorem wellFormed_of_isData (ha : a.isData = true) : a.WellFormed := by
  cases a <;> trivial

/-- Functions with their defaults last make classes that are well formed. -/
theorem kept_wellFormed (module : List String) :
    Kept module FunctionText.DefaultsLast World.WellFormed
      fun body => EntriesWellFormed body.attributes where
  entry h hw := by
    intro i hi
    rw [h] at hi
    exact hw i hi
  addition hw hbody hadd := wellFormed_addClass hw hbody hadd
  start := ⟨List.nodup_nil, by simp [ClassBody.empty]⟩
  function := by
    intro w scope body body' f s s' hbody hf h
    unfold World.defineFunction at h
    rw [run_bind_eq_ok] at h
    obtain ⟨overloads, s₁, -, h⟩ := h
    rw [run_bind_eq_ok] at h
    obtain ⟨implementation, s₂, hbuild, h⟩ := h
    cases h
    apply hbody.set
    apply defaultsLast_build _ hbuild
    cases himplementation : f.implementation with
    | none => simp [Declaration.DefaultsLast, Declaration.anyArguments, ParamKind.isPositional]
    | some d => exact hf d himplementation
  data hbody ha := hbody.set (wellFormed_of_isData ha)
  shared hbody hlookup := hbody.set (wellFormed_shared (hbody.2 _ (mem_of_lookup hlookup)))
  hint hbody := hbody

/-- Programs whose functions have their defaults last make well-formed worlds. -/
theorem wellFormed_defineModules {ms : List ModuleText}
    (hms : ∀ m ∈ ms, ∀ t ∈ m.classes, ∀ f ∈ t.functions, f.DefaultsLast)
    (h : (World.defineModules ms).run s = .ok (w, s')) : w.WellFormed :=
  Kept.defineModules (fun m _ => kept_wellFormed m.name) hms wellFormed_initial h

/-- Initializers that classes get later keep a world well formed if they are well formed. -/
theorem wellFormed_settledBy (hw : w.WellFormed) (hs : ∀ x ∈ s.initializers, x.2.WellFormed) :
    (w.settledBy s).WellFormed := by
  intro i hi
  obtain ⟨old, hold, rfl⟩ := List.mem_map.mp hi
  have hwell := hw old hold
  split
  · rename_i a ha
    obtain ⟨front, back, heq, -⟩ := List.lookup_eq_some_iff.mp ha
    have hmem : (old.name, a) ∈ s.initializers := by simp [heq]
    exact ⟨hwell.entries.set (hs _ hmem), hwell.counts⟩
  · exact hwell

end Overloads
