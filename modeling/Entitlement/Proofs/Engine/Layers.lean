import Entitlement.Proofs.Directory.Bookkeeping
import Entitlement.Proofs.Engine.LetterCase
import Entitlement.Proofs.Engine.Spelling
import Entitlement.Proofs.Hierarchies.Gate

/-!
# Layers that normalize

On its way from a caller to a graph an edge passes through several layers: it is read as a
relationship or as an entity, written to a store, listed as a row, built into a graph and asked for,
each time in some tenant context.  Every layer brings the names or the context into normal form once
more, whether an earlier layer has done so or not.  A normal form is a name or a context like any
other and is its own normal form, so all layers speak of the same vertices and of the same tenant.
-/

namespace Entitlement

/-!
# Looking up a text

A graph must not fail on a text that is no name.  It passes over texts of which nothing remains
after trimming, before it reads them.
-/

namespace Graph

/-- The text is absent, or nothing of it remains after trimming. -/
def passesOver : Option String -> Bool
  | none => true
  | some raw => Text.trim raw = ""

/-- Look up a text. It is read as a name unless it is passed over, and then it must be readable. -/
def lookup (graph : Graph) (text : Option String) : Except Fault (Option Nat) :=
  if passesOver text then
    .ok none
  else do
    let name ← (Name.parse text).mapError .invalidName
    return graph.position? name

theorem passesOver_iff {text : Option String} : passesOver text = true ↔ Name.Nameless text := by
  cases text with
  | none => exact iff_of_true rfl Name.Nameless.absent
  | some raw =>
      unfold passesOver
      rw [decide_eq_true_iff, Text.trim_eq_empty_iff]
      constructor
      · exact Name.Nameless.blank
      · intro h
        cases h with
        | blank hblank => exact hblank

theorem find?_eq_none_of_nameless {graph : Graph} {text : Option String}
    (h : Name.Nameless text) : graph.find? text = none := by
  rcases Name.nameless_iff.mp h with ⟨defect, hdefect⟩
  unfold find?
  rw [hdefect]

theorem lookup_eq (graph : Graph) (text : Option String) :
    graph.lookup text = .ok (graph.find? text) := by
  unfold lookup
  by_cases hpassed : passesOver text = true
  · rw [if_pos hpassed, find?_eq_none_of_nameless (passesOver_iff.mp hpassed)]
  · rw [if_neg hpassed]
    unfold find?
    cases hparse : Name.parse text with
    | error defect =>
        exact absurd (passesOver_iff.mpr (Name.nameless_iff.mpr ⟨defect, hparse⟩)) hpassed
    | ok name => rfl

end Graph

/-!
# Kinds and parents in normal form
-/

theorem HierarchyKind.parse_label (kind : HierarchyKind) : parse (some kind.label) = .ok kind := by
  cases kind <;> rfl

theorem mapM_parse_texts (names : List Name) :
    (names.map fun name => some name.text).mapM
      (fun text => (Name.parse text).mapError Fault.invalidName) = .ok names := by
  induction names with
  | nil => rfl
  | cons name rest ih =>
      rw [List.map_cons, List.mapM_cons, ih, Name.parse_text]
      rfl

theorem parseParents_texts {texts : List (Option String)} {parents : List Name}
    (h : parseParents texts = .ok parents) :
    parseParents (parents.map fun parent => some parent.text) = .ok parents := by
  unfold parseParents at h ⊢
  rw [mapM_parse_texts]
  cases hread : texts.mapM fun text => (Name.parse text).mapError Fault.invalidName with
  | error fault =>
      rw [hread] at h
      cases h
  | ok names =>
      -- The parents that were read make up a roster already, which is the roster of its members.
      rw [hread] at h
      have hparents : Roster.ofList names = parents := Except.ok.inj h
      have hascending := Roster.ascending_ofList names
      rw [hparents] at hascending
      have hroster : Roster.ofList parents = parents :=
        (Roster.ascending_ofList parents).eq_of_mem_iff hascending fun _ => Roster.mem_ofList
      exact congrArg Except.ok hroster

theorem parseParents_singleton {text : Option String} {name : Name}
    (h : Name.parse text = .ok name) : parseParents [text] = .ok [name] := by
  unfold parseParents
  rw [List.mapM_cons, h]
  rfl

/-!
# Proposals
-/

structure Proposal where
  child : Option String
  parent : Option String
  context : Option String

namespace Proposal

/-- The entity is the child of the proposed edge, and has the parent as its only one. -/
structure Describes (entity : Entity) (given : Proposal) : Prop where
  name_eq : entity.name = given.child
  context_eq : entity.context = given.context
  parents_eq : parseParents [given.parent] = .ok entity.parents

/-- A layer brings a part of a proposal into normal form and hands the proposal on. -/
inductive Normalizes (sentinel : String) : Proposal -> Proposal -> Prop where
  | child {given : Proposal} {name : Name} : Name.parse given.child = .ok name ->
      Normalizes sentinel given { given with child := some name.text }
  | parent {given : Proposal} {name : Name} : Name.parse given.parent = .ok name ->
      Normalizes sentinel given { given with parent := some name.text }
  | context (given : Proposal) :
      Normalizes sentinel given
        { given with context := some (Context.normalize sentinel given.context) }

structure Alike (sentinel : String) (given handed : Proposal) : Prop where
  child_eq : Name.parse handed.child = Name.parse given.child
  parent_eq : Name.parse handed.parent = Name.parse given.parent
  context_eq : Context.normalize sentinel handed.context = Context.normalize sentinel given.context

instance (sentinel : String) : IsPreorder Proposal (Alike sentinel) where
  refl := fun _ => ⟨rfl, rfl, rfl⟩
  trans := fun _ _ _ hfirst hsecond =>
    ⟨hsecond.child_eq.trans hfirst.child_eq, hsecond.parent_eq.trans hfirst.parent_eq,
      hsecond.context_eq.trans hfirst.context_eq⟩

variable {sentinel : String} {given handed : Proposal}

theorem Normalizes.alike (h : Normalizes sentinel given handed) : Alike sentinel given handed := by
  cases h with
  | child hname => exact ⟨(Name.parse_text _).trans hname.symm, rfl, rfl⟩
  | parent hname => exact ⟨rfl, (Name.parse_text _).trans hname.symm, rfl⟩
  | context => exact ⟨rfl, rfl, Context.normalize_normalize sentinel given.context⟩

theorem alike_of_layers (h : Relation.ReflTransGen (Normalizes sentinel) given handed) :
    Alike sentinel given handed := by
  induction h with
  | refl => exact refl_of (Alike sentinel) given
  | tail _ hlast ih => exact trans_of (Alike sentinel) ih hlast.alike

end Proposal

/-!
# What single layers make of two names

What a layer does with two texts depends on the edge that is read from them only.
-/

section Layers

variable {child parent : Option String} {edge : Relationship}

theorem Row.edges_pair (hedge : Relationship.parse child parent = .ok edge) :
    (pair child (some [parent])).edges = .ok [edge] := by
  show gather (fun parent => do return [← Relationship.parse child parent]) [parent] = _
  unfold gather
  rw [hedge]
  rfl

theorem Row.edges_ofEntity {entity : Entity} (hname : Name.parse entity.name = .ok edge.child)
    (hparents : entity.parents = [edge.parent]) : (ofEntity entity).edges = .ok [edge] := by
  have hedge : Relationship.parse entity.name (some edge.parent.text) = .ok edge :=
    Relationship.parse_of_names hname (Name.parse_text edge.parent)
  have hcontent : (ofEntity entity).content = .ok (entity.name, [some edge.parent.text]) := by
    show Except.ok (entity.name, entity.parents.map fun parent => some parent.text) = _
    rw [hparents]
    rfl
  unfold Row.edges
  rw [hcontent]
  exact edges_pair hedge

theorem Store.effect_addEntity {entity : Entity}
    (hname : Name.parse entity.name = .ok edge.child) (hparents : entity.parents = [edge.parent])
    (store : Store) :
    (addEntity entity).effect store =
      (.ok (), store.insertEdge (store.key entity.kind entity.context) edge) := by
  unfold addEntity
  rw [hname, hparents]
  rfl

theorem Store.effect_load_singleton (hedge : Relationship.parse child parent = .ok edge)
    (kind : HierarchyKind) (context : Option String) (store : Store) :
    (load (some kind.label) [(child, parent)] context).effect store =
      (.ok (), store.insertEdge (store.key kind context) edge) := by
  rw [load_cons, hedge, HierarchyKind.parse_label]
  rfl

end Layers

namespace Hierarchies

variable {σ : Type}

theorem effect_change_congr (directory : Directory σ) (kind : HierarchyKind)
    {context other : Option String} (edge : Relationship) (label : Option String)
    {h : Hierarchies σ} (hkey : h.cache.key kind context = h.cache.key kind other) :
    (change directory kind context edge label).effect h =
      (change directory kind other edge label).effect h := by
  rw [effect_change, effect_change, effect_prepare, effect_prepare, hkey]

end Hierarchies

/-!
# What all layers make of a proposal
-/

namespace Proposal

variable {sentinel tenant : String} {given handed : Proposal} {edge : Relationship}

/-- Every layer takes the proposal for one edge of the hierarchies of one tenant. -/
structure Denotes (sentinel : String) (given : Proposal) (edge : Relationship) (tenant : String) :
    Prop where
  relationship : Relationship.parse given.child given.parent = .ok edge
  entity : parseParents [given.parent] = .ok [edge.parent]
  key : forall kind, HierarchyKey.of sentinel kind given.context = ⟨kind, tenant⟩
  store_write : forall store : Store, store.sentinel = sentinel -> forall kind change,
    (Store.write kind edge given.context change).effect store =
      (.ok (), store.written ⟨kind, tenant⟩ edge change)
  store_load : forall store : Store, store.sentinel = sentinel -> forall kind : HierarchyKind,
    (Store.load (some kind.label) [(given.child, given.parent)] given.context).effect store =
      (.ok (), store.insertEdge ⟨kind, tenant⟩ edge)
  store_entity : forall store : Store, store.sentinel = sentinel ->
    forall entity, Describes entity given ->
      (Store.addEntity entity).effect store = (.ok (), store.insertEdge ⟨entity.kind, tenant⟩ edge)
  store_list : forall store : Store, store.sentinel = sentinel -> forall kind,
    ((Store.list kind given.context).effect store).1 =
      .ok (Store.Lineage.rows (store.lineage ⟨kind, tenant⟩))
  store_permission : forall store : Store, store.sentinel = sentinel ->
    forall request : PermissionRequest,
      store.permissionKey { request with context := given.context } =
        store.permissionKey { request with context := some tenant }
  row : (Row.pair given.child (some [given.parent])).edges = .ok [edge]
  row_entity : forall entity, Describes entity given -> (Row.ofEntity entity).edges = .ok [edge]
  cache_graph : forall (σ : Type) (directory : Directory σ) (h : Hierarchies σ),
    h.cache.sentinel = sentinel -> forall kind,
      (Hierarchies.graph directory kind given.context).effect h =
        (Hierarchies.graph directory kind (some tenant)).effect h
  cache_change : forall (σ : Type) (directory : Directory σ) (h : Hierarchies σ),
    h.cache.sentinel = sentinel -> forall kind label,
      (Hierarchies.change directory kind given.context edge label).effect h =
        (Hierarchies.change directory kind (some tenant) edge label).effect h
  graph_find : forall graph : Graph, graph.find? given.child = graph.position? edge.child ∧
    graph.find? given.parent = graph.position? edge.parent
  graph_joins : forall graph : Graph, graph.joins given.child given.parent = graph.hasEdge edge
  graph_add : forall graph : Graph,
    (Graph.addEdgeBetween given.child given.parent).effect graph = (Graph.addEdge edge).effect graph
  graph_drop : forall graph : Graph,
    (Graph.dropEdgeBetween given.child given.parent).effect graph =
      (Graph.dropEdge edge).effect graph

theorem Describes.reads {entity : Entity} (h : Describes entity given)
    (hedge : Relationship.parse given.child given.parent = .ok edge) :
    Name.parse entity.name = .ok edge.child ∧ entity.parents = [edge.parent] := by
  rcases Relationship.names_of_parse hedge with ⟨hchild, hparent⟩
  have hparents := h.parents_eq
  rw [parseParents_singleton hparent] at hparents
  exact ⟨h.name_eq ▸ hchild, (Except.ok.inj hparents).symm⟩

theorem denotes_of_parse (sentinel : String)
    (hedge : Relationship.parse given.child given.parent = .ok edge) :
    Denotes sentinel given edge (Context.normalize sentinel given.context) := by
  rcases Relationship.names_of_parse hedge with ⟨hchild, hparent⟩
  have hstored : forall (store : Store) kind, store.sentinel = sentinel ->
      store.key kind given.context = ⟨kind, Context.normalize sentinel given.context⟩ := by
    intro store kind hsentinel
    rw [← hsentinel]
    rfl
  have hcached : forall (cache : Cache) kind, cache.sentinel = sentinel ->
      cache.key kind given.context =
        cache.key kind (some (Context.normalize sentinel given.context)) := by
    intro cache kind hsentinel
    rw [← hsentinel]
    exact (HierarchyKey.of_of cache.sentinel kind given.context).symm
  exact
    { relationship := hedge
      entity := parseParents_singleton hparent
      key := fun kind => rfl
      store_write := by
        intro store hsentinel kind change
        rw [Store.effect_write, hstored store kind hsentinel]
      store_load := by
        intro store hsentinel kind
        rw [Store.effect_load_singleton hedge, hstored store kind hsentinel]
      store_entity := by
        intro store hsentinel entity hentity
        rcases hentity.reads hedge with ⟨hname, hparents⟩
        rw [Store.effect_addEntity hname hparents, hentity.context_eq,
          hstored store entity.kind hsentinel]
      store_list := by
        intro store hsentinel kind
        rw [Store.effect_list, hstored store kind hsentinel]
      store_permission := by
        intro store hsentinel request
        unfold Store.permissionKey
        rw [hsentinel, Context.normalize_normalize]
      row := Row.edges_pair hedge
      row_entity := by
        intro entity hentity
        rcases hentity.reads hedge with ⟨hname, hparents⟩
        exact Row.edges_ofEntity hname hparents
      cache_graph := fun _ directory h hsentinel kind =>
        Hierarchies.effect_graph_congr directory kind (hcached h.cache kind hsentinel)
      cache_change := fun _ directory h hsentinel kind label =>
        Hierarchies.effect_change_congr directory kind edge label (hcached h.cache kind hsentinel)
      graph_find := by
        intro graph
        unfold Graph.find?
        rw [hchild, hparent]
        exact ⟨rfl, rfl⟩
      graph_joins := by
        intro graph
        rw [Graph.joins_eq, hchild, hparent]
      graph_add := fun graph => Graph.effect_addEdgeBetween_of_parse hedge
      graph_drop := fun graph => Graph.effect_dropEdgeBetween_of_parse hedge }

theorem Alike.parse_eq (h : Alike sentinel given handed) :
    Relationship.parse handed.child handed.parent =
      Relationship.parse given.child given.parent := by
  unfold Relationship.parse
  rw [h.child_eq, h.parent_eq]

theorem Alike.denotes (h : Alike sentinel given handed)
    (hedge : Relationship.parse given.child given.parent = .ok edge) :
    Denotes sentinel handed edge (Context.normalize sentinel given.context) := by
  rw [← h.context_eq]
  exact denotes_of_parse sentinel (h.parse_eq.trans hedge)

end Proposal

/-!
# From the writer to the asker
-/

namespace Proposal

variable {sentinel tenant : String} {written asked : Proposal} {edge : Relationship}

/-- What a store is told of one proposal is what is answered to the other one from its listing. -/
def ReadBack (sentinel : String) (written asked : Proposal) (edge : Relationship)
    (tenant : String) : Prop :=
  forall h : Hierarchies Store, h.Ready -> h.cache.sentinel = sentinel -> forall kind change,
    let store := ((Store.write kind edge written.context change).effect h.directory).2
    let answer := (Hierarchies.reload Store.directory kind asked.context).effect
      { h with directory := store }
    (exists graph, answer.1 = .ok graph ∧
        graph.joins asked.child asked.parent = change.leavesEdge) ∨
      exists fault, answer.1 = .error fault ∧ fault.isCycle = true ∧
        ¬ store.Acyclic ⟨kind, tenant⟩

theorem Denotes.readBack (hwritten : Denotes sentinel written edge tenant)
    (hasked : Denotes sentinel asked edge tenant) :
    ReadBack sentinel written asked edge tenant := by
  intro h hready hsentinel kind change store answer
  have hkey : h.cache.key kind asked.context = ⟨kind, tenant⟩ := by
    unfold Cache.key
    rw [hsentinel]
    exact hasked.key kind
  have hstore : store = h.directory.written ⟨kind, tenant⟩ edge change :=
    congrArg Prod.snd
      (hwritten.store_write h.directory (hready.sentinel_eq.trans hsentinel) kind change)
  have hafter : ({ h with directory := store } : Hierarchies Store).Ready := by
    rw [hstore]
    exact hready.written _ edge change
  have hedge : store.hasEdge ⟨kind, tenant⟩ edge = change.leavesEdge := by
    rw [hstore, hready.wellFormed.hasEdge_written, if_pos ⟨rfl, rfl⟩]
  have hcases := hafter.reload_cases kind asked.context
  dsimp only at hcases
  rw [hkey] at hcases
  rcases hcases with ⟨graph, hgraph, _, hedges⟩ | hcyclic
  · refine Or.inl ⟨graph, hgraph, ?_⟩
    rw [hasked.graph_joins, hedges, hedge]
  · exact Or.inr hcyclic

end Proposal

/-!
# Stability
-/

/--
A text that is no name is passed over before it is read; the name that any other text is read as,
the tenant that a context means and the key of a hierarchy are read from their own texts again.  So
all layers, in whatever order and however often they normalize, mean the same edge of the same
tenant.
-/
theorem normalization_settles (sentinel : String) :
    (forall raw, Text.blank raw = false ->
      canonicalForm raw ≠ "" ∧ Text.Trimmed (canonicalForm raw).toList ∧
        canonicalForm (canonicalForm raw) = canonicalForm raw ∧
        exists name, Name.parse (some raw) = .ok name ∧ name.text = canonicalForm raw ∧
          Name.parse (some name.text) = .ok name) ∧
    (forall text, (exists defect, Name.parse text = .error defect) ↔ Name.Nameless text) ∧
    (forall text, (Graph.passesOver text = true ↔ Name.Nameless text) ∧
      forall graph : Graph, graph.lookup text = .ok (graph.find? text) ∧
        (Name.Nameless text -> graph.find? text = none)) ∧
    (forall texts parents, parseParents texts = .ok parents ->
      parseParents (parents.map fun parent => some parent.text) = .ok parents) ∧
    (forall context, Context.normalize sentinel (some (Context.normalize sentinel context)) =
      Context.normalize sentinel context) ∧
    (forall key : HierarchyKey, HierarchyKind.parse (some key.kind.label) = .ok key.kind ∧
      (HierarchyKey.of sentinel key.kind (some key.context) = key ↔
        exists kind context, HierarchyKey.of sentinel kind context = key)) ∧
    (forall given handed, Relation.ReflTransGen (Proposal.Normalizes sentinel) given handed ->
      Graph.Indistinct given.child handed.child ∧ Graph.Indistinct given.parent handed.parent ∧
        forall kind, HierarchyKey.of sentinel kind handed.context =
          HierarchyKey.of sentinel kind given.context) ∧
    forall given written asked edge,
      Relation.ReflTransGen (Proposal.Normalizes sentinel) given written ->
      Relation.ReflTransGen (Proposal.Normalizes sentinel) given asked ->
      Relationship.parse given.child given.parent = .ok edge ->
      let tenant := Context.normalize sentinel given.context
      written.Denotes sentinel edge tenant ∧ asked.Denotes sentinel edge tenant ∧
        Proposal.ReadBack sentinel written asked edge tenant := by
  refine ⟨?_, ?_, ?_, ?_, ?_, ?_, ?_, ?_⟩
  · intro raw hraw
    have htrimmed : Text.Trimmed (canonicalForm raw).toList := by
      rw [toList_canonicalForm]
      exact (Text.trimmed_trimChars raw.toList).flatMap_upperChar
    exact ⟨canonicalForm_ne_empty hraw, htrimmed, canonicalForm_canonicalForm raw,
      .ofText raw hraw, Name.parse_some_of_not_blank hraw, rfl, Name.parse_text _⟩
  · intro text
    exact Name.nameless_iff.symm
  · intro text
    exact ⟨Graph.passesOver_iff,
      fun graph => ⟨graph.lookup_eq text, Graph.find?_eq_none_of_nameless⟩⟩
  · intro texts parents hparents
    exact parseParents_texts hparents
  · intro context
    exact Context.normalize_normalize sentinel context
  · intro key
    exact ⟨HierarchyKind.parse_label key.kind, HierarchyKey.of_own_iff⟩
  · intro given handed hlayers
    have halike := Proposal.alike_of_layers hlayers
    exact ⟨Graph.indistinct_of_parse_eq halike.child_eq.symm,
      Graph.indistinct_of_parse_eq halike.parent_eq.symm,
      fun kind => congrArg (HierarchyKey.mk kind) halike.context_eq⟩
  · intro given written asked edge hwritten hasked hedge tenant
    have hfirst := (Proposal.alike_of_layers hwritten).denotes hedge
    have hsecond := (Proposal.alike_of_layers hasked).denotes hedge
    exact ⟨hfirst, hsecond, hfirst.readBack hsecond⟩

/-- A sharp s and blanks in a name, and a context in which the sentinel is spelled in capitals. -/
theorem normalization_settles_for_a_padded_edge :
    let given : Proposal := ⟨some "\u2003groß ", some " Chef\t", some " GLOBAL "⟩
    let edge : Relationship := ⟨.ofText "\u2003groß " rfl, .ofText " Chef\t" rfl⟩
    let written : Proposal :=
      ⟨some edge.child.text, given.parent, some (Context.normalize "Global" given.context)⟩
    let asked : Proposal :=
      ⟨given.child, some edge.parent.text, some (Context.normalize "Global" written.context)⟩
    let h : Hierarchies Store := ⟨Cache.empty "Global", Store.empty "Global"⟩
    let store := ((Store.write .role edge written.context .add).effect h.directory).2
    let answer := (Hierarchies.reload Store.directory .role asked.context).effect
      { h with directory := store }
    written.child = some "GROSS" ∧ asked.parent = some "CHEF" ∧ asked.context = some "" ∧
      Relationship.parse given.child given.parent = .ok edge ∧
      written.Denotes "Global" edge "" ∧ asked.Denotes "Global" edge "" ∧
      Proposal.ReadBack "Global" written asked edge "" ∧ h.Ready ∧
      answer.1.toOption.map (·.joins asked.child asked.parent) = some true := by
  intro given edge written asked h store answer
  have hedge : Relationship.parse given.child given.parent = .ok edge :=
    Relationship.parse_of_not_blank rfl rfl
  rcases Relationship.names_of_parse hedge with ⟨hchild, hparent⟩
  have hcontext : Proposal.Normalizes "Global" given _ := .context given
  have hwritten : Relation.ReflTransGen (Proposal.Normalizes "Global") given written :=
    (Relation.ReflTransGen.single hcontext).tail (.child hchild)
  have hasked : Relation.ReflTransGen (Proposal.Normalizes "Global") given asked :=
    ((Relation.ReflTransGen.single hcontext).tail (.context _)).tail (.parent hparent)
  have htenant : Context.normalize "Global" given.context = "" := by decide +kernel
  rcases normalization_settles "Global" with ⟨_, _, _, _, _, _, _, hlayers⟩
  have hdenotes := hlayers given written asked edge hwritten hasked hedge
  rw [htenant] at hdenotes
  have hready : h.Ready :=
    { wellFormed := Store.wellFormed_empty "Global"
      sentinel_eq := rfl
      is_open := rfl
      sound := Hierarchies.sound_of_graph?_eq_none fun _ => rfl }
  exact ⟨by decide +kernel, by decide +kernel, by decide +kernel, hedge, hdenotes.1, hdenotes.2.1,
    hdenotes.2.2, hready, by decide +kernel⟩

end Entitlement
