import ContentSource.Proofs.Engine.Effects

/-! # How a plugin is loaded

A document that cannot be read, a charset that cannot encode and a script that fails each stop the
loading of a plugin, in this order. Nothing but the start of the script calls the transport.
-/
namespace ContentSource.Engine

variable {σ : Type} {host : Host σ} {limits : Script.Limits} {source : String} {s t : Session σ}

/-- The name under which the loading of a plugin reports: its title, once that is known. -/
def loadName (source : String) : String :=
  match Document.parse source with
  | .ok d => d.info.title
  | .error _ => unknownPlugin

inductive Loaded (host : Host σ) (limits : Script.Limits) (source : String) (s : Session σ) :
    Except PluginError (Engine σ) → Session σ → Prop
  | unreadable {err : PluginError} : Document.parse source = .error err →
    Loaded host limits source s (.error err) (s.tell (.error err unknownPlugin))
  | badCharset {d : Document} {cause : ParseError} : Document.parse source = .ok d →
    initialRequest d.nodes.processors = .error cause →
    Loaded host limits source s (.error (.parse cause)) (s.tell (.error (.parse cause) d.info.title))
  | started {d : Document} {initial : Request} {ran : Except PluginError Unit} {t : Session σ} :
    Document.parse source = .ok d → initialRequest d.nodes.processors = .ok initial →
    Act.Scripted d.info.title initial StartError.Causes s ran t →
    Loaded host limits source s (ran.map fun _ => ofDocument host limits d initial) t

theorem logged_orFail_error {α : Type} (name : String) (err : PluginError) (s : Session σ) :
    Act.logged name (orFail (.error err : Except PluginError α)) s =
      some (.error err, s.tell (.error err name)) :=
  Act.logged_of_error rfl

theorem logged_orFail_ok {α : Type} (name : String) (a : α) (s : Session σ) :
    Act.logged name (orFail (.ok a)) s = some (.ok a, s) :=
  Act.logged_of_ok rfl

theorem load_eq_some {out : Except PluginError (Engine σ)}
    (h : load host limits source s = some (out, t)) : Loaded host limits source s out t := by
  cases hd : Document.parse source with
  | error err =>
    rw [load, hd, Act.bind_of_error (logged_orFail_error _ err s)] at h
    cases h
    exact .unreadable hd
  | ok d =>
    rw [load, hd, Act.bind_of_ok (logged_orFail_ok _ d s)] at h
    cases hr : initialRequest d.nodes.processors with
    | error cause =>
      have hcharset : (initialRequest d.nodes.processors).mapError PluginError.parse =
          .error (.parse cause) := by
        rw [hr]
        rfl
      rw [hcharset, Act.bind_of_error (logged_orFail_error _ _ s)] at h
      cases h
      exact .badCharset hd hr
    | ok initial =>
      have hcharset : (initialRequest d.nodes.processors).mapError PluginError.parse =
          .ok initial := by
        rw [hr]
        rfl
      rw [hcharset, Act.bind_of_ok (logged_orFail_ok _ initial s)] at h
      rcases Act.bind_eq_some h with ⟨err, rfl, hstart⟩ | ⟨⟨⟩, u, hstart, hdone⟩
      · exact .started hd hr (Bridge.start_eq_some hstart)
      · cases hdone
        exact .started hd hr (Bridge.start_eq_some hstart)

/-- An engine that has been loaded is that of its document. -/
theorem Loaded.eq_ofDocument {e : Engine σ} (h : Loaded host limits source s (.ok e) t) :
    ∃ d initial, Document.parse source = .ok d ∧
      initialRequest d.nodes.processors = .ok initial ∧ e = ofDocument host limits d initial := by
  generalize hout : (.ok e : Except PluginError (Engine σ)) = out at h
  cases h with
  | unreadable | badCharset => cases hout
  | @started d initial ran _ hd hr =>
    cases ran with
    | error => cases hout
    | ok =>
      cases hout
      exact ⟨d, initial, hd, hr, rfl⟩

/-- A document is refused as no XML, or because of what is wrong in it. -/
theorem parse_error_kind {err : PluginError} (h : Document.parse source = .error err) :
    err = .xml ∨ ∃ cause, err = .parse cause := by
  unfold Document.parse at h
  cases hx : Xml.parse? source with
  | none =>
    rw [hx] at h
    cases h
    exact .inl rfl
  | some root =>
    rw [hx] at h
    change (Document.ofRoot root).mapError PluginError.parse = .error err at h
    cases hd : Document.ofRoot root with
    | ok d =>
      rw [hd] at h
      cases h
    | error cause =>
      rw [hd] at h
      cases h
      exact .inr ⟨cause, rfl⟩

def loads (host : Host σ) (limits : Script.Limits) (source : String) (k : σ) : Bool :=
  match load host limits source (Session.initial k) with
  | some (.ok _, _) => true
  | _ => false

theorem exists_of_loads {k : σ} (h : loads host limits source k = true) :
    ∃ e s, load host limits source (Session.initial k) = some (.ok e, s) := by
  unfold loads at h
  split at h
  · exact ⟨_, _, ‹_›⟩
  · cases h

def greeter : String :=
  "<plugin><meta><version>1</version></meta>" ++
    "<nodes><catch><processor type='encoding' value='gbk'/></catch></nodes>" ++
    "<script>function greet() \x7b return 'hello'; \x7d</script></plugin>"

theorem greeter_loads : loads Host.echoing ⟨0, 0⟩ greeter () = true := by decide +kernel

end ContentSource.Engine
