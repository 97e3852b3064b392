import ContentSource.Proofs.Engine.Loading
import ContentSource.Proofs.Fields

/-! # What the groups of a document give

Groups of nodes and processors may repeat in any order. Reading them one after the other keeps an
account of all groups so far: each list of nodes is built from the elements in the groups of its
kind, in order, and each processor has the value that it was given last. An address is then looked
up among the views alone, with the redirect node to fall back on.
-/
namespace ContentSource

/-! ## Lists of results -/

theorem exists_ok_of_bind {ε α β : Type} {x : Except ε α} {f : α → Except ε β} {b : β}
    (h : (x >>= f) = .ok b) : ∃ a, x = .ok a ∧ f a = .ok b := by
  cases x with
  | error => cases h
  | ok a => exact ⟨a, rfl, h⟩

theorem exists_ok_of_map {ε α β : Type} {x : Except ε α} {f : α → β} {b : β}
    (h : x.map f = .ok b) : ∃ a, x = .ok a ∧ f a = b := by
  cases x with
  | error => cases h
  | ok a =>
    cases h
    exact ⟨a, rfl, rfl⟩

theorem map_eq_of_mapM {ε α β : Type} {f : α → Except ε β} {as : List α} {bs : List β}
    (h : as.mapM f = .ok bs) : as.map f = bs.map .ok := by
  induction as generalizing bs with
  | nil =>
    cases h
    rfl
  | cons a as ih =>
    rw [List.mapM_cons] at h
    obtain ⟨b, hb, h⟩ := exists_ok_of_bind h
    obtain ⟨rest, hrest, h⟩ := exists_ok_of_bind h
    cases h
    rw [List.map_cons, List.map_cons, hb, ih hrest]

/-! ## Groups -/

namespace Nodes

def members (kind : String) (groups : List Xml) : List Xml :=
  (groups.filter fun g => g.name == kind).flatMap Xml.elements

def allProcessors (groups : List Xml) : List Xml :=
  (groups.filter fun g => g.name == "catch").flatMap fun g => g.elementsNamed "processor"

def BuiltFrom (kind : String) (xs : List Xml) (ns : List Node) : Prop :=
  xs.map (Node.ofElement kind) = ns.map .ok

def assignments (groups : List Xml) : List (String × String) :=
  (allProcessors groups).map fun p => (p.valueOf "type", p.valueOf "value")

structure Gathers (groups : List Xml) (s : Nodes) : Prop where
  entries : BuiltFrom "entry" (members "entry" groups) s.entries
  views : BuiltFrom "view" (members "view" groups) s.views
  searches : BuiltFrom "search" (members "search" groups) s.searches
  processors : s.processors = .ofList (assignments groups)

theorem members_snoc (kind : String) (groups : List Xml) (group : Xml) :
    members kind (groups ++ [group]) =
      members kind groups ++ if group.name = kind then group.elements else [] := by
  by_cases h : group.name = kind <;> simp [members, h]

theorem assignments_snoc_catch {group : Xml} (hname : group.name = "catch") (groups : List Xml) :
    assignments (groups ++ [group]) = assignments groups ++
      (group.elementsNamed "processor").map fun p => (p.valueOf "type", p.valueOf "value") := by
  simp [assignments, allProcessors, hname]

theorem assignments_snoc_other {group : Xml} (hname : group.name ≠ "catch") (groups : List Xml) :
    assignments (groups ++ [group]) = assignments groups := by
  simp [assignments, allProcessors, hname]

theorem BuiltFrom.append {kind : String} {xs ys : List Xml} {ns ms : List Node}
    (h : BuiltFrom kind xs ns) (h' : BuiltFrom kind ys ms) :
    BuiltFrom kind (xs ++ ys) (ns ++ ms) := by
  unfold BuiltFrom at *
  rw [List.map_append, List.map_append, h, h']

/-- A group of another kind adds nothing. -/
theorem BuiltFrom.skip {kind : String} {groups : List Xml} {group : Xml} {ns : List Node}
    (h : BuiltFrom kind (members kind groups) ns) (hname : group.name ≠ kind) :
    BuiltFrom kind (members kind (groups ++ [group])) ns := by
  rwa [members_snoc, if_neg hname, List.append_nil]

theorem BuiltFrom.extend {kind : String} {groups : List Xml} {group : Xml} {ns ms : List Node}
    (h : BuiltFrom kind (members kind groups) ns) (hname : group.name = kind)
    (hms : BuiltFrom group.name group.elements ms) :
    BuiltFrom kind (members kind (groups ++ [group])) (ns ++ ms) := by
  rw [members_snoc, if_pos hname]
  exact h.append (hname ▸ hms)

theorem BuiltFrom.exists_element {kind : String} {xs : List Xml} {ns : List Node} {n : Node}
    (h : BuiltFrom kind xs ns) (hn : n ∈ ns) : ∃ x ∈ xs, Node.ofElement kind x = .ok n := by
  have hmem : .ok n ∈ xs.map (Node.ofElement kind) := h ▸ List.mem_map_of_mem hn
  exact List.mem_map.mp hmem

theorem gathers_none : Gathers [] none := ⟨rfl, rfl, rfl, rfl⟩

inductive Added (s : Nodes) (group : Xml) : Nodes → Prop
  | catches : group.name = "catch" → Added s group (s.addProcessors group)
  | entries {ns : List Node} : group.name = "entry" → BuiltFrom group.name group.elements ns →
    Added s group { s with entries := s.entries ++ ns }
  | views {ns : List Node} : group.name = "view" → BuiltFrom group.name group.elements ns →
    Added s group { s with views := s.views ++ ns }
  | searches {ns : List Node} : group.name = "search" → BuiltFrom group.name group.elements ns →
    Added s group { s with searches := s.searches ++ ns }

theorem added_of_addGroup {s t : Nodes} {group : Xml} (h : s.addGroup group = .ok t) :
    Added s group t := by
  unfold addGroup at h
  dsimp only at h
  split at h
  · cases h
    exact .catches ‹_›
  · obtain ⟨ns, hns, rfl⟩ := exists_ok_of_map h
    exact .entries ‹_› (map_eq_of_mapM hns)
  · obtain ⟨ns, hns, rfl⟩ := exists_ok_of_map h
    exact .views ‹_› (map_eq_of_mapM hns)
  · obtain ⟨ns, hns, rfl⟩ := exists_ok_of_map h
    exact .searches ‹_› (map_eq_of_mapM hns)
  · cases h

/-- Reading one more group extends the account. -/
theorem Gathers.step {groups : List Xml} {s t : Nodes} {group : Xml} (h : Gathers groups s)
    (hadd : Added s group t) : Gathers (groups ++ [group]) t := by
  cases hadd with
  | catches hname =>
    refine ⟨h.entries.skip (by simp [hname]), h.views.skip (by simp [hname]),
      h.searches.skip (by simp [hname]), ?_⟩
    rw [assignments_snoc_catch hname, Fields.ofList, Fields.insertAll_append, ← Fields.ofList,
      ← h.processors]
    rfl
  | entries hname hns =>
    exact ⟨h.entries.extend hname hns, h.views.skip (by simp [hname]),
      h.searches.skip (by simp [hname]),
      by rw [assignments_snoc_other (by simp [hname]), h.processors]⟩
  | views hname hns =>
    exact ⟨h.entries.skip (by simp [hname]), h.views.extend hname hns,
      h.searches.skip (by simp [hname]),
      by rw [assignments_snoc_other (by simp [hname]), h.processors]⟩
  | searches hname hns =>
    exact ⟨h.entries.skip (by simp [hname]), h.views.skip (by simp [hname]),
      h.searches.extend hname hns,
      by rw [assignments_snoc_other (by simp [hname]), h.processors]⟩

/-- Reading all groups gives the account of all. -/
theorem Gathers.run {before groups : List Xml} {s t : Nodes} (h : Gathers before s)
    (hadd : groups.foldlM Nodes.addGroup s = .ok t) : Gathers (before ++ groups) t := by
  -- the account is over all groups before, since it grows with every group that is read
  induction groups generalizing before s with
  | nil =>
    cases hadd
    rwa [List.append_nil]
  | cons group groups ih =>
    rw [List.foldlM_cons] at hadd
    obtain ⟨u, hgroup, hrest⟩ := exists_ok_of_bind hadd
    rw [← List.singleton_append, ← List.append_assoc]
    exact ih (h.step (added_of_addGroup hgroup)) hrest

structure Gathered (groups : List Xml) (s : Nodes) : Prop extends Gathers groups s where
  lastWins : ∀ key value, s.processors.get? key = some value ↔
    ∃ before p after, allProcessors groups = before ++ p :: after ∧ p.valueOf "type" = key ∧
      p.valueOf "value" = value ∧ ∀ q ∈ after, q.valueOf "type" ≠ key
  redirect : s.redirect = (s.processors.get? redirectKey).map Node.redirect
  hook : ∀ n, s.redirect = some n → n.request = s.processors.get? redirectKey

theorem get?_assignments (groups : List Xml) (key value : String) :
    (Fields.ofList (assignments groups)).get? key = some value ↔
      ∃ before p after, allProcessors groups = before ++ p :: after ∧ p.valueOf "type" = key ∧
        p.valueOf "value" = value ∧ ∀ q ∈ after, q.valueOf "type" ≠ key := by
  have hlast : (Fields.ofList (assignments groups)).get? key =
      ((allProcessors groups).reverse.find? fun p => p.valueOf "type" == key).map
        fun p => p.valueOf "value" := by
    rw [Fields.ofList, Fields.get?_insertAll, Fields.get?_empty, Option.or_none, assignments,
      ← List.map_reverse, List.find?_map, Option.map_map]
    rfl
  rw [hlast, Option.map_eq_some_iff]
  constructor
  · rintro ⟨p, hp, hvalue⟩
    obtain ⟨htype, after, before, hsplit, hafter⟩ := List.find?_eq_some_iff_append.mp hp
    refine ⟨before.reverse, p, after.reverse, ?_, by simpa using htype, hvalue, ?_⟩
    · rw [← List.reverse_reverse (allProcessors groups), hsplit]
      simp
    · simpa using hafter
  · rintro ⟨before, p, after, hsplit, htype, hvalue, hafter⟩
    refine ⟨p, List.find?_eq_some_iff_append.mpr ⟨by simpa using htype, after.reverse,
      before.reverse, ?_, by simpa using hafter⟩, hvalue⟩
    rw [hsplit]
    simp

theorem gathered_of_ofElement {x : Xml} {s : Nodes} (h : ofElement x = .ok s) :
    Gathered x.elements s := by
  obtain ⟨t, hread, rfl⟩ := exists_ok_of_map h
  have hall : Gathers x.elements t := gathers_none.run hread
  refine ⟨⟨hall.entries, hall.views, hall.searches, hall.processors⟩, ?_, rfl, ?_⟩
  · intro key value
    rw [← get?_assignments, ← hall.processors]
    rfl
  · intro n hn
    obtain ⟨hook, hkey, rfl⟩ := Option.map_eq_some_iff.mp hn
    exact hkey.symm

end Nodes

/-! ## Kinds -/

def NodeKind.group : NodeKind → String
  | .entry _ => "entry"
  | .view _ => "view"
  | .search => "search"
  | .redirect => "redirect"

theorem Node.group_of_readKind {group : String} {x : Xml} {kind : NodeKind}
    (h : readKind group x = .ok kind) : kind.group = group := by
  unfold readKind at h
  split at h
  · split at h
    · cases h
      rfl
    · cases h
  · split at h
    · cases h
    · split at h
      · cases h
        rfl
      · cases h
  · cases h
    rfl
  · cases h

theorem Node.group_of_ofElement {group : String} {x : Xml} {n : Node}
    (h : ofElement group x = .ok n) : n.kind.group = group := by
  obtain ⟨dataType, -, h⟩ := exists_ok_of_bind h
  obtain ⟨kind, hkind, h⟩ := exists_ok_of_bind h
  obtain ⟨cacheMillis, -, h⟩ := exists_ok_of_bind h
  cases h
  exact group_of_readKind hkind

theorem Nodes.BuiltFrom.group_eq {kind : String} {xs : List Xml} {ns : List Node} {n : Node}
    (h : Nodes.BuiltFrom kind xs ns) (hn : n ∈ ns) : n.kind.group = kind := by
  obtain ⟨x, -, hx⟩ := h.exists_element hn
  exact Node.group_of_ofElement hx

/-! ## Looking up an address -/

namespace Engine

variable {σ : Type}

structure Finds (e : Engine σ) (url : String) : Prop where
  outside : e.info.covers url = false → ∀ allow, e.findNode? url allow = none
  view : e.info.covers url = true → ∀ before n after, e.nodes.views = before ++ n :: after →
    n.shows url = true → (∀ m ∈ before, m.shows url = false) →
      ∀ allow, e.findNode? url allow = some n
  fallback : e.info.covers url = true → (∀ m ∈ e.nodes.views, m.shows url = false) →
    e.findNode? url true = e.nodes.redirect ∧ e.findNode? url false = none
  kind : ∀ allow n, e.findNode? url allow = some n → (∃ f, n.kind = .view f) ∨ n.kind = .redirect
  unlisted : ∀ allow n, e.findNode? url allow = some n →
    n ∉ e.nodes.entries ∧ n ∉ e.nodes.searches
  lasting : ∀ n, e.findNode? url false = some n → e.findNode? url true = some n

theorem findNode?_covered {e : Engine σ} {url : String} (h : e.info.covers url = true)
    (allow : Bool) : e.findNode? url allow =
      (e.nodes.findView? url).or (if allow then e.nodes.redirect else none) := by
  rw [findNode?, h]
  rfl

theorem findNode?_uncovered {e : Engine σ} {url : String} (h : e.info.covers url = false)
    (allow : Bool) : e.findNode? url allow = none := by
  rw [findNode?, h]
  rfl

/-- A node that is found is a view or the redirect node. -/
theorem mem_of_findNode? {e : Engine σ} {url : String} {allow : Bool} {n : Node}
    (h : e.findNode? url allow = some n) : n ∈ e.nodes.views ∨ e.nodes.redirect = some n := by
  cases hcovers : e.info.covers url with
  | false =>
    rw [findNode?_uncovered hcovers] at h
    cases h
  | true =>
    rw [findNode?_covered hcovers] at h
    rcases Option.or_eq_some_iff.mp h with hview | ⟨-, hredirect⟩
    · exact .inl (List.mem_of_find?_eq_some hview)
    · cases allow with
      | true => exact .inr hredirect
      | false => cases hredirect

theorem group_of_findNode? {e : Engine σ} {groups : List Xml} (h : e.nodes.Gathered groups)
    {url : String} {allow : Bool} {n : Node} (hn : e.findNode? url allow = some n) :
    n.kind.group = "view" ∨ n.kind.group = "redirect" := by
  rcases mem_of_findNode? hn with hview | hredirect
  · exact .inl (h.views.group_eq hview)
  · rw [h.redirect] at hredirect
    obtain ⟨hook, -, rfl⟩ := Option.map_eq_some_iff.mp hredirect
    exact .inr rfl

theorem finds_of_gathered {e : Engine σ} {groups : List Xml} (h : e.nodes.Gathered groups)
    (url : String) : e.Finds url where
  outside := findNode?_uncovered
  view := by
    intro hcovers before n after hviews hn hbefore allow
    have hfound : e.nodes.findView? url = some n := by
      refine List.find?_eq_some_iff_append.mpr ⟨hn, before, after, hviews, fun m hm => ?_⟩
      rw [hbefore m hm]
      rfl
    rw [findNode?_covered hcovers, hfound, Option.some_or]
  fallback := by
    intro hcovers hnone
    have hmissed : e.nodes.findView? url = none :=
      List.find?_eq_none.mpr fun m hm => by simp [hnone m hm]
    rw [findNode?_covered hcovers, findNode?_covered hcovers, hmissed]
    exact ⟨rfl, rfl⟩
  kind := by
    intro allow n hn
    have hgroup := group_of_findNode? h hn
    cases hkind : n.kind with
    | view f => exact .inl ⟨f, rfl⟩
    | redirect => exact .inr rfl
    | entry | search =>
      rw [hkind] at hgroup
      simp [NodeKind.group] at hgroup
  unlisted := by
    intro allow n hn
    have hgroup := group_of_findNode? h hn
    refine ⟨fun hentry => ?_, fun hsearch => ?_⟩
    · rw [h.entries.group_eq hentry] at hgroup
      simp at hgroup
    · rw [h.searches.group_eq hsearch] at hgroup
      simp at hgroup
  lasting := by
    intro n hn
    cases hcovers : e.info.covers url with
    | false =>
      rw [findNode?_uncovered hcovers] at hn
      cases hn
    | true =>
      rw [findNode?_covered hcovers] at hn ⊢
      rcases Option.or_eq_some_iff.mp hn with hview | ⟨-, hnothing⟩
      · rw [hview, Option.some_or]
      · cases hnothing

end Engine

/-! ## Documents -/

namespace Document

theorem nodes_of_ofRoot {root : Xml} {d : Document} (h : ofRoot root = .ok d) :
    ∃ x, root.first? "nodes" = some x ∧ Nodes.ofElement x = .ok d.nodes := by
  cases hinfo : root.first? "meta" with
  | none =>
    rw [ofRoot, hinfo] at h
    cases h
  | some info =>
    cases hnodes : root.first? "nodes" with
    | none =>
      rw [ofRoot, hinfo, hnodes] at h
      cases h
    | some x =>
      rw [ofRoot, hinfo, hnodes] at h
      obtain ⟨m, -, h⟩ := exists_ok_of_bind h
      obtain ⟨ns, hns, h⟩ := exists_ok_of_bind h
      cases h
      exact ⟨x, rfl, hns⟩

theorem gathered_of_parse {source : String} {d : Document} (h : parse source = .ok d) :
    ∃ root x, Xml.parse? source = some root ∧ root.first? "nodes" = some x ∧
      Nodes.Gathered x.elements d.nodes := by
  unfold parse at h
  cases hroot : Xml.parse? source with
  | none =>
    rw [hroot] at h
    cases h
  | some root =>
    rw [hroot] at h
    dsimp only at h
    cases hd : ofRoot root with
    | error =>
      rw [hd] at h
      cases h
    | ok d' =>
      rw [hd] at h
      cases h
      obtain ⟨x, hx, hnodes⟩ := nodes_of_ofRoot hd
      exact ⟨root, x, rfl, hx, Nodes.gathered_of_ofElement hnodes⟩

/-- The nodes of a document are those of its groups, however these repeat and interleave, and every
engine of the document finds the first view that shows an address, or else the redirect node. -/
theorem nodes_are_found {source : String} {d : Document} (h : parse source = .ok d) :
    (∃ root x, Xml.parse? source = some root ∧ root.first? "nodes" = some x ∧
        Nodes.Gathered x.elements d.nodes) ∧
      (∀ (σ : Type) (e : Engine σ), e.nodes = d.nodes → ∀ url, e.Finds url) ∧
      ∀ (σ : Type) (host : Host σ) limits e s t,
        Engine.load host limits source s = some (.ok e, t) →
          e.info = d.info ∧ e.nodes = d.nodes := by
  obtain ⟨root, x, hroot, hx, hgathered⟩ := gathered_of_parse h
  refine ⟨⟨root, x, hroot, hx, hgathered⟩, ?_, ?_⟩
  · intro σ e hnodes url
    rw [← hnodes] at hgathered
    exact Engine.finds_of_gathered hgathered url
  · intro σ host limits e s t hload
    obtain ⟨d', initial, hd', -, rfl⟩ := (Engine.load_eq_some hload).eq_ofDocument
    rw [h] at hd'
    cases hd'
    exact ⟨rfl, rfl⟩

def accepted (source : String) : Bool := (parse source).toOption.isSome

theorem exists_of_accepted {source : String} (h : accepted source = true) :
    ∃ d, parse source = .ok d := by
  unfold accepted at h
  cases hd : parse source with
  | ok d => exact ⟨d, rfl⟩
  | error =>
    rw [hd] at h
    cases h

/-- A plugin whose groups interleave, with two redirects of which the last one counts. -/
def redirector : String :=
  "<p><meta><version>1</version></meta><nodes>" ++
    "<catch><processor type='redirect' value='a'/></catch>" ++
    "<view><n type='w.p' expr='x'/></view><entry><n type='w.l' title='t'/></entry>" ++
    "<catch><processor type='redirect' value='b'/></catch><search><n type='w.l'/></search>" ++
    "<view><n type='w.p' expr='y'/></view></nodes></p>"

theorem redirector_nodes : ∃ d, parse redirector = .ok d ∧
    (∃ root x, Xml.parse? redirector = some root ∧ root.first? "nodes" = some x ∧
      Nodes.Gathered x.elements d.nodes) ∧
    ∀ (σ : Type) (e : Engine σ), e.nodes = d.nodes → ∀ url, e.Finds url := by
  have haccepted : accepted redirector = true := by decide +kernel
  obtain ⟨d, hd⟩ := exists_of_accepted haccepted
  obtain ⟨hgathered, hfinds, -⟩ := nodes_are_found hd
  exact ⟨d, hd, hgathered, hfinds⟩

end Document

end ContentSource
