import ContentSource.Proofs.Engine.Effects
import ContentSource.Proofs.Script.Outcomes
import ContentSource.Proofs.Script.StackLine

/-! # Reports of errors

An error is asked for its stack, its message and the number of its line, in this order. Where it has
no such number, the report names the line of its stack. A line that the script has is quoted behind
the message, without the blanks around it; of any other line only the number is named.
-/
namespace ContentSource.Script

open Text (Units)

def quotation (script : String) (n : Nat) : String :=
  if h : 1 ≤ n ∧ n ≤ (linesOf script).length then "\n\n" ++ Text.trim (linesOf script)[n - 1]
  else ""

theorem sourceLine?_natCast (script : String) (n : Nat) :
    sourceLine? script n =
      if h : 1 ≤ n ∧ n ≤ (linesOf script).length then some (Text.trim (linesOf script)[n - 1])
      else none := by
  rw [sourceLine?, Int.toNat_natCast]
  split
  · rename_i hzero
    rw [dif_neg (by omega)]
  · rename_i hpos
    by_cases hle : n ≤ (linesOf script).length
    · rw [dif_pos ⟨by omega, hle⟩, List.getElem?_eq_getElem (by omega), Option.map_some]
    · rw [dif_neg fun h => hle h.2, List.getElem?_eq_none (by omega), Option.map_none]

theorem Caught.report_of_line {e : Caught} {n : Nat} (script : String)
    (h : e.line.or (e.stack.bind stackLine?) = some (n : Int)) :
    e.report script =
      "line " ++ toString n ++ ": " ++ e.message.getD "<no message>" ++ quotation script n ++
        "\n\n" ++ e.stack.getD "<no stack trace>" := by
  rw [report, h, quotation]
  simp only [sourceLine?_natCast]
  by_cases hn : 1 ≤ n ∧ n ≤ (linesOf script).length
  · simp only [dif_pos hn]
    rfl
  · simp only [dif_neg hn]
    rfl

theorem Caught.report_of_no_line {e : Caught} (script : String)
    (h : e.line.or (e.stack.bind stackLine?) = none) :
    e.report script =
      e.message.getD "<no message>" ++ "\n\n" ++ e.stack.getD "<no stack trace>" := by
  rw [report, h]

namespace Run

variable {σ : Type} {c : Context σ} {m n : Machine σ} {r : Ref} {stack : String}
  {message : Option String}

/-! ## Asking an error -/

theorem getObject_of_absent {k : Key} (h : m.find? r k = none) :
    (getObject r k).act c m = .ok .undefined m :=
  act_bind_of_ok ((looks_find r k).sees h)

theorem textProperty_of_text {name text : String} {w e g : Bool}
    (h : m.find? r (Key.ofString name) = some ⟨.data (.text text) w, e, g⟩) :
    (textProperty r name).act c m = .ok (some text) m := by
  have htext : (Units.ofString text).toString? = some text := by
    rw [Units.toString?, Units.toString_eq_ok_iff.mpr rfl]
    rfl
  rw [textProperty, act_bind_of_ok (attempt_ok_iff.mpr (getObject_of_data h)), ← htext]
  rfl

theorem intProperty_of_absent {name : String} (h : m.find? r (Key.ofString name) = none) :
    (intProperty r name).act c m = .ok none m :=
  act_bind_of_ok (attempt_ok_iff.mpr (getObject_of_absent h))

/-- An error tells its stack, and perhaps a message, and has no number of a line then. What it is
asked for may run code. -/
structure TellsStack (c : Context σ) (m : Machine σ) (r : Ref) (stack : String)
    (message : Option String) (n : Machine σ) : Prop where
  isError : (m.objectAt r).cls = .error
  told : ∃ k, (textProperty r "stack").act c m = .ok (some stack) k ∧
    (textProperty r "message").act c k = .ok message n
  noLine : n.find? r (Key.ofString "lineNumber") = none

theorem isError_of_error (h : (m.objectAt r).cls = .error) :
    (isError (.object r)).act c m = .ok (some r) m := by
  rw [isError, act_bind_of_ok (looks_object r c m), h]
  rfl

theorem describe_of_tellsStack (script : String) (h : TellsStack c m r stack message n) :
    (describe script (.object r)).act c m =
      .ok (Caught.report script ⟨message, none, some stack⟩) n := by
  obtain ⟨k, hstack, hmessage⟩ := h.told
  have hcaught : (caughtError r).act c m = .ok ⟨message, none, some stack⟩ n := by
    rw [caughtError, act_bind_of_ok hstack, act_bind_of_ok hmessage,
      act_bind_of_ok (intProperty_of_absent h.noLine)]
    rfl
  rw [describe, act_bind_of_ok (isError_of_error h.isError)]
  exact act_bind_of_ok hcaught

/-! ## The innermost frame -/

/-- The line of a stack is that of the first frame behind lines that name no place, if it fits a
signed 32-bit integer. The report on an error that tells such a stack and has no number of a line
names this line, and it quotes the line of the script exactly if the script has one; a line that
does not fit is neither named nor quoted. -/
theorem innermost_frame_is_reported {skipped further : List String} {frame : String} {line : Nat}
    (hbreaks : ∀ s ∈ skipped ++ frame :: further, '\n' ∉ s.toList)
    (hskipped : ∀ s ∈ skipped, ¬NamesPlace (Text.trim s))
    (hframe : FrameAt line (Text.trim frame)) :
    stackLine? ("\n".intercalate (skipped ++ frame :: further)) =
        (if line < 2147483648 then some (line : Int) else none) ∧
      ∀ {σ : Type} {c : Context σ} {m n : Machine σ} {r : Ref} {message : Option String}
        (script : String),
        TellsStack c m r ("\n".intercalate (skipped ++ frame :: further)) message n →
        (describe script (.object r)).act c m =
          .ok ((if line < 2147483648 then
              "line " ++ toString line ++ ": " ++ message.getD "<no message>" ++
                quotation script line
            else message.getD "<no message>") ++
              "\n\n" ++ "\n".intercalate (skipped ++ frame :: further)) n := by
  have hline := stackLine?_of_frameAt hbreaks hskipped hframe
  refine ⟨hline, fun script htells => ?_⟩
  rw [describe_of_tellsStack script htells]
  by_cases hfits : line < 2147483648
  · rw [if_pos hfits] at hline ⊢
    rw [Caught.report_of_line script]
    · rfl
    · rw [Option.none_or, Option.bind_some, hline]
  · rw [if_neg hfits] at hline ⊢
    rw [Caught.report_of_no_line script]
    · rfl
    · rw [Option.none_or, Option.bind_some, hline]

def holdsText (m : Machine σ) (r : Ref) (name text : String) : Bool :=
  match m.find? r (Key.ofString name) with
  | some ⟨.data (.string s) _, _, _⟩ => s == Units.ofString text
  | _ => false

def holdsStack (m : Machine σ) (r : Ref) (stack message : String) : Bool :=
  (match (m.objectAt r).cls with
    | .error => true
    | _ => false) &&
  holdsText m r "stack" stack && holdsText m r "message" message &&
  (m.find? r (Key.ofString "lineNumber")).isNone

theorem textProperty_of_holdsText {name text : String} (h : holdsText m r name text = true) :
    (textProperty r name).act c m = .ok (some text) m := by
  unfold holdsText at h
  split at h
  · rename_i s w e g hfind
    obtain rfl : s = Units.ofString text := by simpa using h
    exact textProperty_of_text hfind
  · cases h

/-- Where the texts are there already, asking for them runs no code. -/
theorem TellsStack.of_holdsStack {message : String} (h : holdsStack m r stack message = true) :
    TellsStack c m r stack (some message) m := by
  simp only [holdsStack, Bool.and_eq_true, Option.isNone_iff_eq_none] at h
  obtain ⟨⟨⟨hcls, hstack⟩, hmessage⟩, hline⟩ := h
  refine ⟨?_, ⟨m, textProperty_of_holdsText hstack, textProperty_of_holdsText hmessage⟩, hline⟩
  split at hcls
  · assumption
  · cases hcls

def tangledFrame : String := "    at f:1 (x (a:7:9):2:3)\r"

def tangledStack : String :=
  "\n".intercalate (["    at map (native)"] ++ tangledFrame :: ["    at <eval> (b:6:1)", ""])

/-- A script that throws an error with this stack. It needs no object of the realm. -/
def stumbler : String :=
  "try \x7b\n  null.x;\n\x7d catch (e) \x7b\n  e.stack = '    at map (native)" ++
    "\\n    at f:1 (x (a:7:9):2:3)\\r\\n    at <eval> (b:6:1)\\n';\n  throw e;\n\x7d"

def stumbling : Setting Unit := ⟨Host.echoing, "stumbler", .initial, ⟨0, 0⟩⟩

def stumbled? : Option (Ref × Machine Unit) :=
  match (runScript stumbler).act stumbling.context (.empty ()) with
  | .error (.thrown (.object r)) m => some (r, m)
  | _ => none

def stumbledMessage : String := "cannot read property 'x' of null"

def stumbles : Bool :=
  match stumbled? with
  | some (r, m) => holdsStack m r tangledStack stumbledMessage
  | none => false

theorem stumbles_eq : stumbles = true := by decide +kernel

theorem stumbler_throws (c : Context Unit) :
    ∃ r m, stumbled? = some (r, m) ∧
      TellsStack c m r tangledStack (some stumbledMessage) m := by
  have h := stumbles_eq
  unfold stumbles at h
  split at h
  · rename_i r m hthrown
    exact ⟨r, m, hthrown, .of_holdsStack h⟩
  · cases h

/-- The report names the line of the tangled frame and quotes it from the script. -/
theorem stumbler_is_reported :
    (∀ s ∈ ["    at map (native)"] ++ tangledFrame :: ["    at <eval> (b:6:1)", ""],
      '\n' ∉ s.toList) ∧
    (∀ s ∈ ["    at map (native)"], ¬NamesPlace (Text.trim s)) ∧
    FrameAt 2 (Text.trim tangledFrame) ∧ stackLine? tangledStack = some 2 ∧
    ∃ r m, stumbled? = some (r, m) ∧
      TellsStack stumbling.context m r tangledStack (some stumbledMessage) m ∧
      (describe stumbler (.object r)).act stumbling.context m =
        .ok ("line 2: cannot read property 'x' of null\n\nnull.x;\n\n" ++ tangledStack) m := by
  have hbreaks : ∀ s ∈ ["    at map (native)"] ++ tangledFrame :: ["    at <eval> (b:6:1)", ""],
      '\n' ∉ s.toList := by decide
  have hskipped : ∀ s ∈ ["    at map (native)"], ¬NamesPlace (Text.trim s) := by decide
  have hframe : FrameAt 2 (Text.trim tangledFrame) :=
    @FrameAt.named 2 "f:1" "x (a:7:9)" "2" "3" 3 ⟨0, rfl⟩ ⟨0, rfl⟩
  obtain ⟨hline, hreport⟩ := innermost_frame_is_reported hbreaks hskipped hframe
  obtain ⟨r, m, hthrown, htells⟩ := stumbler_throws stumbling.context
  have hquoted : quotation stumbler 2 = "\n\nnull.x;" := by decide +kernel
  refine ⟨hbreaks, hskipped, hframe, hline, r, m, hthrown, htells, ?_⟩
  rw [tangledStack, hreport stumbler htells, if_pos (by decide), hquoted]
  rfl

end Run

end ContentSource.Script
