import Entitlement.Proofs.Engine.Authorize
import Entitlement.Proofs.Hierarchies.Closures
import Entitlement.Proofs.Spelling

/-!
# Expansion of roles

Roles are expanded to themselves and their ascendants.  Expansion is a closure operator: what has
been expanded does not grow any further, because ascendants of ascendants are ascendants, and
because a name is read back from its own text.  What comes out depends on the names that are given
only, and not on their order, number or spelling.
-/

namespace Entitlement
namespace Hierarchies

/-- One step from a list of texts to a list that gives the same names. -/
inductive Respelled : List (Option String) -> List (Option String) -> Prop where
  | reordered {texts more : List (Option String)} : texts.Perm more -> Respelled texts more
  | repeated {text : Option String} {texts : List (Option String)} :
      text ∈ texts -> Respelled texts (text :: texts)
  | upper (raw : String) (texts : List (Option String)) :
      Respelled (some raw :: texts) (some (Text.upper raw) :: texts)
  | padded {front back : String} (raw : String) (texts : List (Option String)) :
      Text.blank (front ++ back) = true ->
      Respelled (some raw :: texts) (some (front ++ raw ++ back) :: texts)
  | nameless {text : Option String} (texts : List (Option String)) :
      Name.Nameless text -> Respelled texts (text :: texts)

/-!
# Names that lists of texts give
-/

theorem mem_givenNames_iff_parse {texts : List (Option String)} {name : Name} :
    name ∈ givenNames texts ↔ exists text, text ∈ texts ∧ Name.parse text = .ok name := by
  unfold givenNames
  rw [List.mem_filterMap]
  refine exists_congr fun text => and_congr_right fun _ => ?_
  cases Name.parse text <;> simp [Except.toOption]

theorem mem_givenNames_cons {text : Option String} {texts : List (Option String)} {name : Name} :
    name ∈ givenNames (text :: texts) ↔ Name.parse text = .ok name ∨ name ∈ givenNames texts := by
  simp only [mem_givenNames_iff_parse, List.mem_cons, or_and_right, exists_or, exists_eq_left]

theorem mem_givenNames_append {texts more : List (Option String)} {name : Name} :
    name ∈ givenNames (texts ++ more) ↔ name ∈ givenNames texts ∨ name ∈ givenNames more := by
  unfold givenNames
  rw [List.filterMap_append, List.mem_append]

@[simp] theorem givenNames_texts (names : List Name) :
    givenNames (names.map fun name => some name.text) = names := by
  unfold givenNames
  rw [List.filterMap_map]
  simp [Function.comp_def, Except.toOption]

theorem Respelled.mem_givenNames_iff {texts more : List (Option String)}
    (h : Respelled texts more) (name : Name) :
    name ∈ givenNames texts ↔ name ∈ givenNames more := by
  cases h with
  | reordered hperm => exact (hperm.filterMap _).mem_iff
  | repeated hmember =>
      rw [mem_givenNames_cons]
      refine (or_iff_right_of_imp fun hname => ?_).symm
      exact mem_givenNames_iff_parse.mpr ⟨_, hmember, hname⟩
  | upper raw rest =>
      rw [mem_givenNames_cons, mem_givenNames_cons, Name.parse_congr (canonicalForm_upper raw)]
  | padded raw rest hblank =>
      rw [mem_givenNames_cons, mem_givenNames_cons,
        Name.parse_congr (canonicalForm_pad hblank raw)]
  | nameless _ hnameless =>
      rcases Name.nameless_iff.mp hnameless with ⟨defect, hdefect⟩
      rw [mem_givenNames_cons, hdefect]
      exact (or_iff_right fun hname => nomatch hname).symm

theorem mem_givenNames_iff_of_eqvGen {texts more : List (Option String)}
    (h : Relation.EqvGen Respelled texts more) (name : Name) :
    name ∈ givenNames texts ↔ name ∈ givenNames more := by
  induction h with
  | rel _ _ hstep => exact hstep.mem_givenNames_iff name
  | refl _ => exact Iff.rfl
  | symm _ _ _ ih => exact ih.symm
  | trans _ _ _ _ _ ihfirst ihsecond => exact ihfirst.trans ihsecond

/-!
# The closure operator
-/

/-- A closure operator on role texts that adds the ascendants in a graph. -/
structure Expands (graph : Graph) (expand : List (Option String) -> List Name) : Prop where
  mem_iff : forall roles name, name ∈ expand roles ↔
    exists text, some text ∈ roles ∧ Text.blank text = false ∧
      (name.text = canonicalForm text ∨ name ∈ graph.ascendants (some text))
  ascending : forall roles, Roster.Ascending (expand roles)
  idempotent : forall roles, expand ((expand roles).map fun name => some name.text) = expand roles
  monotone : forall roles more, roles ⊆ more -> expand roles ⊆ expand more
  union : forall roles more name,
    name ∈ expand (roles ++ more) ↔ name ∈ expand roles ∨ name ∈ expand more
  respelled : forall roles more, Relation.EqvGen Respelled roles more -> expand roles = expand more
  unknown : forall text name, Name.parse text = .ok name -> name ∉ graph.names ->
    expand [text] = [name]

theorem ascending_expanded (graph : Graph) (roles : List (Option String)) :
    Roster.Ascending (expanded graph roles) :=
  Roster.ascending_ofList _

theorem expanded_congr {roles more : List (Option String)} (graph : Graph)
    (hsame : forall name, name ∈ givenNames roles ↔ name ∈ givenNames more) :
    expanded graph roles = expanded graph more := by
  apply Roster.ofList_eq_of_mem_iff
  intro name
  simp only [List.mem_flatMap, hsame]

theorem mem_expanded_append {graph : Graph} (hgraph : graph.Sound)
    {roles more : List (Option String)} {name : Name} :
    name ∈ expanded graph (roles ++ more) ↔
      name ∈ expanded graph roles ∨ name ∈ expanded graph more := by
  simp only [mem_expanded_iff hgraph, mem_givenNames_append, or_and_right, exists_or]

theorem mem_expanded_iff_ascendants {graph : Graph} (hgraph : graph.Sound)
    {roles : List (Option String)} {name : Name} :
    name ∈ expanded graph roles ↔
      exists text, some text ∈ roles ∧ Text.blank text = false ∧
        (name.text = canonicalForm text ∨ name ∈ graph.ascendants (some text)) := by
  rw [mem_expanded_iff hgraph]
  simp only [mem_givenNames_iff]
  constructor
  · rintro ⟨held, ⟨text, hrole, hblank, hheld⟩, hreach⟩
    have hparse := Name.parse_some_eq_ok_iff.mpr ⟨hblank, hheld⟩
    refine ⟨text, hrole, hblank, ?_⟩
    rw [hgraph.mem_ascendants_of_parse hparse]
    rcases hreach with hsame | habove
    · rw [← hsame]
      exact Or.inl hheld
    · exact Or.inr habove
  · rintro ⟨text, hrole, hblank, hreach⟩
    have hparse := Name.parse_some_of_not_blank hblank
    refine ⟨.ofText text hblank, ⟨text, hrole, hblank, rfl⟩, ?_⟩
    rw [hgraph.mem_ascendants_of_parse hparse] at hreach
    exact hreach.imp_left fun hsame => Name.eq_of_text_eq hsame.symm

theorem expanded_expanded {graph : Graph} (hgraph : graph.Sound) (roles : List (Option String)) :
    expanded graph ((expanded graph roles).map fun name => some name.text) =
      expanded graph roles := by
  apply (ascending_expanded graph _).eq_of_mem_iff (ascending_expanded graph roles)
  intro name
  rw [mem_expanded_iff hgraph, givenNames_texts]
  constructor
  · rintro ⟨middle, hmiddle, hreach⟩
    rcases (mem_expanded_iff hgraph).mp hmiddle with ⟨held, hheld, hlower⟩
    refine (mem_expanded_iff hgraph).mpr ⟨held, hheld, ?_⟩
    rcases hreach with hsame | hupper
    · rw [← hsame]
      exact hlower
    · rcases hlower with hsame | hlower
      · rw [hsame]
        exact Or.inr hupper
      · exact Or.inr (hlower.trans hupper)
  · intro hname
    exact ⟨name, hname, Or.inl rfl⟩

theorem expanded_unknown {graph : Graph} {text : Option String} {name : Name}
    (hname : Name.parse text = .ok name) (hunknown : name ∉ graph.names) :
    expanded graph [text] = [name] := by
  have hgiven : givenNames [text] = [name] := by
    simp [givenNames, hname, Except.toOption]
  have hnone : graph.find? (some name.text) = none :=
    (Graph.Unlisted.unknown (Name.parse_text name) hunknown).find?_eq_none
  unfold expanded
  rw [hgiven, List.flatMap_singleton, Graph.ascendants, hnone]
  rfl

theorem expands_expanded {graph : Graph} (hgraph : graph.Sound) :
    Expands graph (expanded graph) where
  mem_iff := fun _ _ => mem_expanded_iff_ascendants hgraph
  ascending := ascending_expanded graph
  idempotent := expanded_expanded hgraph
  monotone := by
    intro roles more hsubset name hname
    rw [mem_expanded_iff_ascendants hgraph] at hname ⊢
    rcases hname with ⟨text, hrole, hrest⟩
    exact ⟨text, hsubset hrole, hrest⟩
  union := fun _ _ _ => mem_expanded_append hgraph
  respelled := fun _ _ h => expanded_congr graph (mem_givenNames_iff_of_eqvGen h)
  unknown := fun _ _ => expanded_unknown

/-!
# Roles that live hierarchies expand
-/

variable {σ : Type} {directory : Directory σ} {h : Hierarchies σ} {kind : HierarchyKind}
  {context : Option String} {graph : Graph}

theorem result_inherited (hview : view directory h (h.cache.key kind context) = .ok graph)
    (roles : List (Option String)) :
    ((inherited directory kind roles context).effect h).1 = .ok (expanded graph roles) := by
  rw [effect_inherited]
  split
  · rename_i hnone
    rw [expanded, List.isEmpty_iff.mp hnone]
    rfl
  · rw [result_graph, hview]
    rfl

theorem view_after_inherited (hview : view directory h (h.cache.key kind context) = .ok graph)
    (roles : List (Option String)) :
    let next := ((inherited directory kind roles context).effect h).2
    view directory next (next.cache.key kind context) = .ok graph := by
  rw [effect_inherited]
  split
  · exact hview
  · have hresult := result_graph directory kind context h
    rcases hgraph : (Hierarchies.graph directory kind context).effect h with ⟨result, next⟩
    rw [hgraph, hview] at hresult
    dsimp only at hresult
    subst hresult
    exact (stands_of_graph hgraph (next.cache.key kind context)).view_eq

end Hierarchies

/--
While a graph is to be had, roles are expanded by one closure operator over its ascendants, however
often and in whatever order that is asked.
-/
theorem expansion_is_closure {σ : Type} {directory : Directory σ} {sentinel : String}
    {h : Hierarchies σ} (hreached : Hierarchies.Reached directory sentinel h)
    {kind : HierarchyKind} {context : Option String} {graph : Graph}
    (hgraph : ((Hierarchies.graph directory kind context).run h).result = .ok graph) :
    Hierarchies.Expands graph (Hierarchies.expanded graph) ∧
      forall roles,
        ((Hierarchies.inherited directory kind roles context).run h).result =
          .ok (Hierarchies.expanded graph roles) ∧
        forall more,
          ((Hierarchies.inherited directory kind more context).run
            ((Hierarchies.inherited directory kind roles context).run h).state).result =
              .ok (Hierarchies.expanded graph more) := by
  rw [Action.result_eq_effect, Hierarchies.result_graph] at hgraph
  have hsound := (Hierarchies.sound_of_reached hreached).of_view hgraph
  refine ⟨Hierarchies.expands_expanded hsound, fun roles => ⟨?_, fun more => ?_⟩⟩
  · rw [Action.result_eq_effect]
    exact Hierarchies.result_inherited hgraph roles
  · rw [Action.result_eq_effect, Action.state_eq_effect]
    exact Hierarchies.result_inherited (Hierarchies.view_after_inherited hgraph roles) more

theorem expansion_is_closure_of_a_chain :
    let lower : Relationship := ⟨.ofText "clerk" rfl, .ofText "boss" rfl⟩
    let upper : Relationship := ⟨.ofText "boss" rfl, .ofText "owner" rfl⟩
    let first : Hierarchies.Call := .change .role none lower (some "add")
    let second : Hierarchies.Call := .change .role none upper (some "add")
    let start : Hierarchies Store := ⟨Cache.empty "null", Store.empty "null"⟩
    let h := ((second.perform Store.directory).run
      ((first.perform Store.directory).run start).state).state
    let roles := [none, some " clerk\t", some "  ", some "CLERK", some "ghost"]
    exists graph, ((Hierarchies.graph Store.directory .role none).run h).result = .ok graph ∧
      Hierarchies.Expands graph (Hierarchies.expanded graph) ∧
      ((Hierarchies.inherited Store.directory .role roles none).run h).result =
        .ok (Hierarchies.expanded graph roles) ∧
      (Hierarchies.expanded graph roles).map (·.text) = ["BOSS", "CLERK", "GHOST", "OWNER"] := by
  intro lower upper first second start h roles
  have hreached : Hierarchies.Reached Store.directory "null" h :=
    .call second (.call first (.start (Store.empty "null")))
  have hexpanded : ((Hierarchies.graph Store.directory .role none).run h).result.toOption.any
      (fun graph => decide ((Hierarchies.expanded graph roles).map (·.text) =
        ["BOSS", "CLERK", "GHOST", "OWNER"])) = true := by decide +kernel
  rcases (Option.any_eq_true _ _).mp hexpanded with ⟨graph, hgraph, hnames⟩
  have hserved := Action.eq_ok_of_toOption hgraph
  rcases expansion_is_closure hreached hserved with ⟨hexpands, hresult⟩
  exact ⟨graph, hserved, hexpands, (hresult roles).1, of_decide_eq_true hnames⟩

end Entitlement
