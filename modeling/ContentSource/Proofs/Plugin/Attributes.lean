import ContentSource.Proofs.Engine.Content
import ContentSource.Proofs.Plugin.Acceptance
import ContentSource.Proofs.Plugin.Groups
import Mathlib.Data.List.Forall2

/-! # What the attributes of nodes give

Every node of a document but the redirect node is read from an element, so what is said of an
element holds of all of them. Their cache times are exact, and none of their addresses and hooks is
blank. The redirect node is not kept and works on no address, but its hook is the value of a
processor just as it stands.
-/
namespace ContentSource

/-! ## Nodes and their elements -/

namespace Node

structure AsWritten (x : Xml) (n : Node) : Prop where
  cache : CacheTime.Gives (x.attribute? "cache") n.cacheMillis
  url : n.url = Text.nonBlank? (x.valueOf "url")
  request : n.request = Text.nonBlank? (x.valueOf "request")
  parse : n.parse = Text.nonBlank? (x.valueOf "parse")

theorem gives_of_readCache {x : Xml} {ms : Nat} (h : readCache x = .ok ms) :
    CacheTime.Gives (x.attribute? "cache") ms := by
  unfold readCache at h
  split at h
  · rename_i n hn
    cases h
    exact CacheTime.ofAttribute_eq_ok_iff.mp hn
  · cases h

theorem asWritten_of_ofElement {group : String} {x : Xml} {n : Node}
    (h : ofElement group x = .ok n) : AsWritten x n := by
  obtain ⟨dataType, -, h⟩ := exists_ok_of_bind h
  obtain ⟨kind, -, h⟩ := exists_ok_of_bind h
  obtain ⟨ms, hms, h⟩ := exists_ok_of_bind h
  cases h
  exact ⟨gives_of_readCache hms, rfl, rfl, rfl⟩

end Node

namespace Nodes

def lists (s : Nodes) : List (String × List Node) :=
  [("entry", s.entries), ("view", s.views), ("search", s.searches)]

theorem Gathers.builtFrom {groups : List Xml} {s : Nodes} (h : Gathers groups s) {kind : String}
    {ns : List Node} (hns : (kind, ns) ∈ s.lists) : BuiltFrom kind (members kind groups) ns := by
  simp only [lists, List.mem_cons, Prod.mk.injEq, List.not_mem_nil, or_false] at hns
  rcases hns with ⟨rfl, rfl⟩ | ⟨rfl, rfl⟩ | ⟨rfl, rfl⟩
  · exact h.entries
  · exact h.views
  · exact h.searches

theorem BuiltFrom.asWritten {kind : String} {xs : List Xml} {ns : List Node}
    (h : BuiltFrom kind xs ns) : List.Forall₂ Node.AsWritten xs ns := by
  have hbuilt : List.Forall₂ Eq (xs.map (Node.ofElement kind)) (ns.map .ok) := by
    rw [List.forall₂_eq_eq_eq]
    exact h
  rw [List.forall₂_map_left_iff, List.forall₂_map_right_iff] at hbuilt
  exact hbuilt.imp fun _ _ => Node.asWritten_of_ofElement

end Nodes

/-! ## Cache times -/

namespace Nodes

/-- The nodes of all groups are kept as long as their elements say, and the redirect node is not
kept. -/
structure Timed (groups : List Xml) (s : Nodes) : Prop where
  listed : ∀ kind ns, (kind, ns) ∈ s.lists →
    List.Forall₂ (fun x n => CacheTime.Gives (x.attribute? "cache") n.cacheMillis)
      (members kind groups) ns
  redirect : ∀ n, s.redirect = some n → n.cacheMillis = 0

theorem Gathered.timed {groups : List Xml} {s : Nodes} (h : Gathered groups s) :
    Timed groups s where
  listed := fun _ _ hns => (h.builtFrom hns).asWritten.imp fun _ _ hn => hn.cache
  redirect := by
    intro n hn
    rw [h.redirect] at hn
    obtain ⟨hook, -, rfl⟩ := Option.map_eq_some_iff.mp hn
    rfl

end Nodes

/-- A cache time is read exactly from a text that states one, a text that states none is refused,
and neither an unknown unit nor a length that does not fit comes up on the way. What a node is kept
for is what its element states, a day without a statement, and nothing for the redirect node. -/
theorem Document.cache_times_are_exact :
    (∀ text ms, CacheTime.parse text = .ok ms ↔ CacheTime.States text ms) ∧
      (∀ text, (∀ ms, ¬ CacheTime.States text ms) → ∃ refusal,
        CacheTime.parse text = .error refusal ∧ (refusal = .malformed ∨ refusal = .outOfRange)) ∧
      (∀ text u, CacheTime.parse text ≠ .error (.unknownUnit u)) ∧
      (∀ hours, ∃ t, CacheTime.Span.hour.times? hours = some t) ∧
      (∀ text t, CacheTime.read text = .ok t → t.millis.toNat = t.seconds.toNat * 1000) ∧
      ∀ source d, parse source = .ok d → ∃ root x, Xml.parse? source = some root ∧
        root.first? "nodes" = some x ∧ d.nodes.Timed x.elements := by
  refine ⟨fun _ _ => CacheTime.parse_eq_ok_iff, fun _ => CacheTime.parse_eq_error,
    CacheTime.parse_ne_unknownUnit, fun hours => ?_, fun text t ht => ?_, fun source d h => ?_⟩
  · obtain ⟨t, ht, -⟩ := CacheTime.hour_times? hours
    exact ⟨t, ht⟩
  · obtain ⟨k, hk⟩ := CacheTime.exists_hours_of_read ht
    exact CacheTime.millis_toNat hk
  · obtain ⟨root, x, hroot, hx, hgathered⟩ := gathered_of_parse h
    exact ⟨root, x, hroot, hx, hgathered.timed⟩

/-! ## Blanks -/

theorem Text.nonBlank_of_nonBlank? {s t : String} (h : nonBlank? s = some t) : NonBlank t := by
  by_contra hblank
  obtain ⟨rfl, -⟩ := nonBlank?_eq_some.mp h
  rw [nonBlank?_of_blank hblank] at h
  cases h

namespace Node

def names (n : Node) : List String := n.url.toList ++ n.request.toList ++ n.parse.toList

def NoneBlank (n : Node) : Prop := ∀ name ∈ n.names, Text.NonBlank name

theorem AsWritten.noneBlank {x : Xml} {n : Node} (h : AsWritten x n) : n.NoneBlank := by
  intro name hname
  simp only [names, h.url, h.request, h.parse, List.mem_append, Option.mem_toList] at hname
  rcases hname with (hname | hname) | hname <;> exact Text.nonBlank_of_nonBlank? hname

theorem redirect_noneBlank_iff {hook : String} :
    (redirect hook).NoneBlank ↔ Text.NonBlank hook := by
  simp [NoneBlank, names, redirect]

end Node

namespace Nodes

def listed (s : Nodes) : List Node := s.entries ++ s.views ++ s.searches

theorem Gathers.noneBlank {groups : List Xml} {s : Nodes} (h : Gathers groups s) :
    ∀ n ∈ s.listed, n.NoneBlank := by
  have hread : ∀ kind {ns}, (kind, ns) ∈ s.lists → ∀ n ∈ ns, n.NoneBlank := by
    intro kind ns hns n hn
    obtain ⟨x, -, hx⟩ := (h.builtFrom hns).exists_element hn
    exact (Node.asWritten_of_ofElement hx).noneBlank
  intro n hn
  rcases List.mem_append.mp hn with hn | hn
  · rcases List.mem_append.mp hn with hn | hn
    · exact hread "entry" (by simp [lists]) n hn
    · exact hread "view" (by simp [lists]) n hn
  · exact hread "search" (by simp [lists]) n hn

end Nodes

/-- A pipeline calls no hooks but those of its node. -/
theorem Pipeline.Due.mem_names {initial : Request} {url hook : String} {n : Node}
    {ds : List Deed} {r : Response} (h : Due initial url n ds (.invoke hook r)) :
    hook ∈ n.names := by
  generalize heffect : Effect.invoke hook r = effect at h
  cases h with
  | url | call | last => cases heffect
  | hook hn =>
    cases heffect
    simp [Node.names, hn]
  | again hn =>
    cases heffect
    simp [Node.names, hn]
  | parse hp =>
    cases heffect
    simp [Node.names, hp]

/-- The hooks that a pipeline has called, and the one that it is about to call, are not blank. -/
theorem Engine.Follows.nonBlank {σ : Type} {e : Engine σ} {n : Node} {input : Option String}
    {page : UInt32} {s t : Session σ} {ds : List Deed} (h : e.Follows n input page s ds t)
    (hn : n.NoneBlank) :
    (∀ d ∈ ds, ∀ hook r, d.effect = .invoke hook r → Text.NonBlank hook) ∧
      ∀ hook r, Pipeline.Due e.initial (e.workingUrl n input page) n ds (.invoke hook r) →
        Text.NonBlank hook := by
  refine ⟨fun d hd hook r heffect => ?_, fun hook r hdue => hn hook hdue.mem_names⟩
  obtain ⟨before, after, rfl⟩ := List.append_of_mem hd
  have hdue := h.2 before d after rfl
  rw [heffect] at hdue
  exact hn hook hdue.mem_names

namespace Document

/-- No node of a group has a blank address or hook, so that its pipelines call no blank hook. The
redirect node has no address and no parse hook, and its request hook is the value of the processor,
which may be blank: only if it is not do its pipelines call no blank hook either. -/
theorem listed_nodes_have_no_blanks {source : String} {d : Document} (h : parse source = .ok d) :
    (∀ n ∈ d.nodes.listed, n.NoneBlank) ∧
      (∀ n, d.nodes.redirect = some n → ∃ hook,
        d.nodes.processors.get? Nodes.redirectKey = some hook ∧ n = Node.redirect hook ∧
          (n.NoneBlank ↔ Text.NonBlank hook)) ∧
      ∀ n, (n ∈ d.nodes.listed ∨ d.nodes.redirect = some n ∧ n.NoneBlank) →
        ∀ (σ : Type) (e : Engine σ) input page s ds t, e.Follows n input page s ds t →
          (∀ deed ∈ ds, ∀ hook r, deed.effect = .invoke hook r → Text.NonBlank hook) ∧
            ∀ hook r,
              Pipeline.Due e.initial (e.workingUrl n input page) n ds (.invoke hook r) →
                Text.NonBlank hook := by
  obtain ⟨root, x, -, -, hgathered⟩ := gathered_of_parse h
  have hlisted := hgathered.noneBlank
  refine ⟨hlisted, fun n hn => ?_, fun n hn σ e input page s ds t hfollows => ?_⟩
  · rw [hgathered.redirect] at hn
    obtain ⟨hook, hkey, rfl⟩ := Option.map_eq_some_iff.mp hn
    exact ⟨hook, hkey, rfl, Node.redirect_noneBlank_iff⟩
  · rcases hn with hn | ⟨-, hn⟩
    · exact hfollows.nonBlank (hlisted n hn)
    · exact hfollows.nonBlank hn

/-- A plugin with blank attributes: those of the entry count as none, that of the processor as a
hook. -/
def blanks : String :=
  "<p><meta><version>1</version></meta><nodes>" ++
    "<entry><n type='w.l' title='t' url='u' request=' ' parse='p'/></entry>" ++
    "<catch><processor type='redirect' value=' '/></catch></nodes></p>"

theorem blanks_read : ∃ d, parse blanks = .ok d ∧ d.nodes.listed.map Node.names = [["u", "p"]] ∧
    d.nodes.redirect.map Node.names = some [" "] := by
  have hread : (parse blanks).toOption.map
      (fun d => (d.nodes.listed.map Node.names, d.nodes.redirect.map Node.names)) =
        some ([["u", "p"]], some [" "]) := by decide +kernel
  obtain ⟨d, hd, hnames⟩ := Option.map_eq_some_iff.mp hread
  cases hparse : parse blanks with
  | error =>
    rw [hparse] at hd
    cases hd
  | ok d' =>
    rw [hparse] at hd
    cases hd
    exact ⟨d, rfl, congrArg Prod.fst hnames, congrArg Prod.snd hnames⟩

theorem blanks_listed : ∃ d, parse blanks = .ok d ∧ d.nodes.listed.map Node.names = [["u", "p"]] ∧
    ∀ n ∈ d.nodes.listed, n.NoneBlank := by
  obtain ⟨d, hd, hnames, -⟩ := blanks_read
  exact ⟨d, hd, hnames, (listed_nodes_have_no_blanks hd).1⟩

/-- A blank processor makes a redirect node with a blank hook. -/
theorem redirect_may_be_blank : ¬ ∀ source d, parse source = .ok d →
    ∀ n, (n ∈ d.nodes.listed ∨ d.nodes.redirect = some n) → n.NoneBlank := by
  intro hall
  obtain ⟨d, hd, -, hredirect⟩ := blanks_read
  obtain ⟨n, hn, hnames⟩ := Option.map_eq_some_iff.mp hredirect
  obtain ⟨c, hc, hblank⟩ := hall blanks d hd n (.inr hn) " " (by simp [hnames])
  obtain rfl : c = ' ' := by simpa using hc
  exact absurd hblank (by decide)

end Document

end ContentSource
