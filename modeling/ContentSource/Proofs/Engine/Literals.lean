import ContentSource.Proofs.Charset.Ascii
import ContentSource.Proofs.Engine.Content
import ContentSource.Proofs.Link
import ContentSource.Proofs.Script.HookResults

/-! # Literal content

The content of a `NULL` link is the text behind the double colon, if that is not empty and has no
line feed: whoever asks for such a link gets that text from memory, and nothing else happens. Any
other text behind `NULL` makes no link, and the transport is asked for the whole.

The bytes of the content are UTF-8, whatever the charset of the request. So the content reads back
as it was written in UTF-8, and where it is ASCII; in other charsets it may read as something else.
-/
namespace ContentSource

open Text (IsAscii)

variable {σ : Type} {p : String}

def Response.literal (p : String) (r : Request) : Response :=
  ⟨Text.Utf8.encode p, r, "NULL::" ++ p⟩

/-! ## Links of content -/

theorem parse?_null (p : String) : Link.parse? ("NULL::" ++ p) =
    if Link.IsPayload p.toList then some ⟨Link.null, p⟩ else none :=
  Link.parse?_ident Link.isIdent_null p

theorem linkPayload?_null (p : String) :
    linkPayload? Link.null ("NULL::" ++ p) = if Link.IsPayload p.toList then some p else none := by
  rw [linkPayload?, parse?_null]
  by_cases hp : Link.IsPayload p.toList <;> simp [hp]

/-- A link of content asks for no other link. -/
theorem linkPayload?_call_null (p : String) : linkPayload? Link.call ("NULL::" ++ p) = none := by
  have hother : Link.null ≠ Link.call := by decide
  rw [linkPayload?, parse?_null]
  by_cases hp : Link.IsPayload p.toList <;> simp [hp, hother]

theorem linkPayload?_call_of_null (hp : Link.IsPayload p.toList) :
    linkPayload? Link.call ("CALL::NULL::" ++ p) = some ("NULL::" ++ p) := by
  have hwhole : "CALL::NULL::" ++ p = Link.call ++ "::" ++ ("NULL::" ++ p) := by
    rw [← String.append_assoc]
    rfl
  have hnull : Link.IsPayload ("NULL::" ++ p).toList := by
    refine ⟨?_, ?_⟩ <;> simp [hp.2]
  rw [hwhole, linkPayload?, Link.parse?_ident Link.isIdent_call, if_pos hnull]
  simp

theorem Host.fetch_of_literal (h : Host σ) (hp : Link.IsPayload p.toList) (r : Request) (k : σ) :
    h.fetch ("NULL::" ++ p) r k = (.ok (.literal p r), k, []) := by
  have hnull := linkPayload?_null p
  rw [if_pos hp] at hnull
  simp only [Host.fetch, Host.literal?, hnull, Option.map_some, Response.literal]

theorem Host.fetch_of_no_literal (h : Host σ) (hp : ¬Link.IsPayload p.toList) (r : Request)
    (k : σ) :
    h.fetch ("NULL::" ++ p) r k = h.transport ("NULL::" ++ p) r k := by
  have hnull := linkPayload?_null p
  rw [if_neg hp] at hnull
  simp only [Host.fetch, Host.literal?, hnull, Option.map_none]

/-! ## Content in a pipeline -/

namespace Engine

variable (e : Engine σ)

/-- Wherever a pipeline gets to the `NULL` link of a text, it gets the text, and nothing happens. -/
structure ServesContent (p : String) : Prop where
  fetches : ∀ r s, e.perform (.fetch ("NULL::" ++ p) r) s = some (.ok (.literal p r), s)
  deeds : ∀ n input page s ds t, e.Follows n input page s ds t → ∀ d ∈ ds, ∀ r,
    d.effect = .fetch ("NULL::" ++ p) r → d.answer = .ok (.literal p r) ∧ d.seen = []
  /-- The link that a request hook ends with is the content that the parse hook or the caller
  gets. -/
  result : ∀ n hook input page s i ds a t, n.request = some hook → n.isRedirect = false →
    Chain e.perform s ds t →
    Pipeline.HookGave e.initial (e.workingUrl n input page) hook i ds a →
    a.text = "NULL::" ++ p →
    Pipeline.source e.perform n e.initial (e.workingUrl n input page) s =
      some (.ok (.literal p a.request), t)
  /-- The link that a request hook asks for is the content that it is called with next. -/
  round : ∀ n hook input page s i ds a t, n.request = some hook → Chain e.perform s ds t →
    Pipeline.HookGave e.initial (e.workingUrl n input page) hook i ds a →
    a.text = "CALL::NULL::" ++ p →
    ∃ ds', Chain e.perform s ds' t ∧ Deed.trace ds' = Deed.trace ds ∧
      Pipeline.Due e.initial (e.workingUrl n input page) n ds' (.invoke hook (.literal p a.request))

variable {e}

theorem perform_literal (hp : Link.IsPayload p.toList) (r : Request) (s : Session σ) :
    e.perform (.fetch ("NULL::" ++ p) r) s = some (.ok (.literal p r), s) := by
  have hnull := linkPayload?_null p
  rw [if_pos hp] at hnull
  exact fetch_of_literal hnull

theorem servesContent (e : Engine σ) (hp : Link.IsPayload p.toList) : e.ServesContent p where
  fetches := perform_literal hp
  deeds n input page s ds t hfollows d hd r heffect := by
    obtain ⟨u, v, hperform, hseen⟩ := hfollows.1.performed d hd
    rw [heffect, perform_literal hp] at hperform
    simp only [Option.some.injEq, Prod.mk.injEq] at hperform
    obtain ⟨hanswer, rfl⟩ := hperform
    exact ⟨hanswer.symm, by simpa using hseen⟩
  result n hook input page s i ds a t hn hr hchain hgave ha := by
    have hother : linkPayload? Link.call a.text = none := by
      rw [ha]
      exact linkPayload?_call_null p
    rw [Pipeline.source_of_hook hn hr, Act.bind_of_ok (hgave.rounds_eq_ok hchain hother), ha]
    exact perform_literal hp a.request t
  round n hook input page s i ds a t hn hchain hgave ha := by
    have hcall : linkPayload? Link.call a.text = some ("NULL::" ++ p) := by
      rw [ha]
      exact linkPayload?_call_of_null hp
    refine ⟨_, .snoc (d := ⟨_, _, []⟩) hchain (perform_literal hp a.request t) (by simp), ?_,
      .again hn hgave hcall⟩
    simp [Deed.trace]

end Engine

/-- Behind `NULL` and a double colon, a text that is not empty and has no line feed is content: it
comes from memory in UTF-8, with the request it was asked for, and no pipeline notices more than
that. Any other text there is left to the transport with the whole link. -/
theorem literal_links_stay_local (p : String) :
    (Link.IsPayload p.toList →
      (∀ (h : Host σ) r k, h.fetch ("NULL::" ++ p) r k = (.ok (.literal p r), k, [])) ∧
      ∀ e : Engine σ, e.ServesContent p) ∧
    (¬Link.IsPayload p.toList → ∀ (h : Host σ) r k,
      h.fetch ("NULL::" ++ p) r k = h.transport ("NULL::" ++ p) r k) := by
  refine ⟨fun hp => ⟨fun h r k => ?_, fun e => ?_⟩, fun hp h r k => ?_⟩
  · exact h.fetch_of_literal hp r k
  · exact e.servesContent hp
  · exact h.fetch_of_no_literal hp r k

/-- A payload may hold colons and blanks. -/
theorem quoted_link_stays_local (r : Request) :
    Link.IsPayload "CALL::http://site/ two".toList ∧
      Host.echoing.fetch "NULL::CALL::http://site/ two" r () =
        (.ok (.literal "CALL::http://site/ two" r), (), []) := by
  have hp : Link.IsPayload "CALL::http://site/ two".toList := by decide
  exact ⟨hp, ((literal_links_stay_local "CALL::http://site/ two").1 hp).1 Host.echoing r ()⟩

/-- Content of two lines is asked of the transport. -/
theorem two_lines_leave :
    ¬∀ p : String, p ≠ "" → ∀ (h : Host Unit) r k,
      h.fetch ("NULL::" ++ p) r k = (.ok (.literal p r), k, []) := by
  intro hall
  have hlocal := hall "first\nsecond" (by decide) Host.echoing .initial ()
  have hp : ¬Link.IsPayload "first\nsecond".toList := by decide
  rw [Host.fetch_of_no_literal Host.echoing hp] at hlocal
  simp [Host.transport, Host.echoing] at hlocal

/-! ## How content reads -/

structure Response.ReadsUtf8 (a : Response) (p : String) : Prop where
  text : a.text = a.request.charset.decode (Text.Utf8.encode p)
  utf8 : a.request.charset = .utf8 → a.text = p
  ascii : IsAscii p.toList → a.request.charset.Holds p.toList → a.text = p
  /-- A charset of one byte to a character reads nothing but ASCII as it was written. -/
  oneByte : a.request.charset.OneByte → a.text = p → IsAscii p.toList

theorem Response.literal_readsUtf8 (p : String) {r : Request} (hr : r.Writable) :
    (Response.literal p r).ReadsUtf8 p where
  text := rfl
  utf8 h := by
    have htext : (Response.literal p r).text = r.charset.decode (Text.Utf8.encode p) := rfl
    rw [htext, show r.charset = .utf8 from h]
    exact Text.Utf8.decode_encode p
  ascii hascii hholds := by
    have hread := Charset.decodeBytes_ascii (Request.writable_iff.mp hr) hascii
      (Charset.not_excludes_of_holds hascii hholds)
    exact (congrArg String.ofList hread).trans String.ofList_toList
  oneByte hone htext := by
    refine Charset.isAscii_of_decodeBytes hone ?_
    have hchars := congrArg String.toList htext
    exact String.toList_ofList.symm.trans hchars

/-- Content is read in the charset of the request, though its bytes are UTF-8. It reads as it was
written if that charset is UTF-8, and if it is ASCII that the charset represents exactly. -/
theorem literal_content_reads_utf8 {p : String} (hp : Link.IsPayload p.toList) :
    (∀ (h : Host σ) r k, r.Writable → ∃ a, h.fetch ("NULL::" ++ p) r k = (.ok a, k, []) ∧
      a.request = r ∧ a.ReadsUtf8 p) ∧
    (∀ e : Engine σ, e.ServesContent p) ∧
    ∀ r : Request, r.Writable → (Response.literal p r).ReadsUtf8 p := by
  refine ⟨fun h r k hr => ⟨.literal p r, ?_, rfl, ?_⟩, fun e => ?_, fun r hr => ?_⟩
  · exact h.fetch_of_literal hp r k
  · exact Response.literal_readsUtf8 p hr
  · exact e.servesContent hp
  · exact Response.literal_readsUtf8 p hr

/-- An ASCII text reads back in GBK. -/
theorem ascii_reads_in_gbk :
    Link.IsPayload "plain text".toList ∧
      (Response.literal "plain text" { Request.initial with charset := .gbk }).text =
        "plain text" := by
  have hp : Link.IsPayload "plain text".toList := by decide
  obtain ⟨-, -, hreads⟩ := literal_content_reads_utf8 (σ := Unit) hp
  exact ⟨hp, (hreads { Request.initial with charset := .gbk } rfl).ascii (by decide) (by decide)⟩

/-- A euro sign does not read back in windows-1252, though that charset has it. -/
theorem euro_misread :
    ¬∀ (p : String) (r : Request), Link.IsPayload p.toList → r.Writable →
      r.charset.Holds p.toList → ∀ (h : Host Unit) k a,
        h.fetch ("NULL::" ++ p) r k = (.ok a, k, []) → a.text = p := by
  intro hall
  have hp : Link.IsPayload "€".toList := by decide
  have hholds : (Charset.singleByte .windows1252).Holds "€".toList := by
    decide +kernel
  let r : Request := { Request.initial with charset := .singleByte .windows1252 }
  have hr : r.Writable := rfl
  have htext := hall "€" r hp hr hholds Host.echoing () _ (Host.echoing.fetch_of_literal hp r ())
  have hascii := (Response.literal_readsUtf8 "€" hr).oneByte (.inr ⟨.windows1252, rfl⟩) htext
  exact absurd (hascii '€' (by decide)) (by decide)

end ContentSource
