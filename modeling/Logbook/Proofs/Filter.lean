import Logbook.Proofs.LowerCase
import Logbook.Proofs.Utf8
import Logbook.Table

/-!
# What a filter accepts

A filter looks for a text in a message without regard to case: both are lowered, each as a whole.  A message may hold
the text as it is written and not be accepted, for a sigma at an end of the text may end a word there and not in the
message.  Apart from such sigmas whatever is written in a message is found in it.

## Main results

* `Filter.accepts_iff` — a filter accepts what holds its text in lower case; an empty one accepts everything.
* `Filter.accepts_holding_iff` — **which texts are found wherever they are written.**
-/

namespace Logbook

namespace Utf8

/-- A text is shown as it was written. -/
@[simp] theorem lossy_encode (text : String) : lossy (encode text) = text := by
  have hshown : (text.toList.map Part.char).map Part.shown = text.toList := by
    rw [List.map_map]
    exact List.map_id _
  rw [lossy, parts_encode, hshown, String.ofList_toList]

end Utf8

namespace Filter

/-- A filter accepts what holds its text in lower case. -/
theorem accepts_iff {filter : Option String} {e : Event} :
    accepts (needle? filter) e = true ↔
      ∀ text ∈ filter, LowerCase.lower text.toList <:+: LowerCase.lower e.text.toList := by
  cases filter with
  | none => simp [needle?, accepts]
  | some text =>
    rw [needle?]
    split
    · next hnil => simp [accepts, hnil]
    · simp [accepts, Search.occursIn_iff]

/-- **Which texts are found wherever they are written.**  A filter accepts every message that holds its text as it is
written just if each capital sigma of the text is decided within the text. -/
theorem accepts_holding_iff (text : String) :
    (∀ (e : Event) (message : String), Utf8.decode e.message = .ok message → text.toList <:+: message.toList →
      accepts (needle? (some text)) e = true) ↔ LowerCase.Settled text.toList := by
  rw [← LowerCase.infix_lower_iff]
  constructor
  · intro h whole hinfix
    let e : Event := { id := .least, log := "", timestamp := .ofNanos 0, message := Utf8.encode (String.ofList whole) }
    have haccepts := h e (String.ofList whole) (Utf8.decode_encode _) (by rwa [String.toList_ofList])
    have hfound := accepts_iff.1 haccepts text rfl
    rwa [Event.text, Utf8.lossy_encode, String.toList_ofList] at hfound
  · intro h e message hmessage hinfix
    rw [accepts_iff]
    intro sought hsought
    rw [← Option.mem_some.1 hsought, Event.text, Utf8.decode_eq_ok_iff.1 hmessage, Utf8.lossy_encode]
    exact h _ hinfix

/-- A sigma ends the word that is looked for, and stands in the middle of the word in the message. -/
theorem not_accepts_sigma :
    let e : Event := { id := .least, log := "a", timestamp := .ofNanos 0, message := Utf8.encode "ΑΣΑ" }
    Utf8.decode e.message = .ok "ΑΣΑ" ∧ "ΑΣ".toList <:+: "ΑΣΑ".toList ∧
      accepts (needle? (some "ΑΣ")) e = false := by
  decide +kernel

end Filter

end Logbook
