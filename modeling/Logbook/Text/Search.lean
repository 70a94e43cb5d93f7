/-!
# Search in texts

Whether a text holds another one is decided in one pass over it.  A window as long as the needle slides
along the text, and its fingerprint is kept up to date; characters are compared only where the fingerprint
is that of the needle.

## Main definitions

* `Search.occursIn` — whether the needle begins one of the ends of a text.
* `Search.fingerprint` — a number for a text, which tells most texts apart.
* `Search.occurs` — the search with a sliding window.

## Main results

* `Search.occursIn_iff` — what a search answers.
* `Search.fingerprint_slide` — how the fingerprint of a window follows the window.
* `Search.occurs_eq_occursIn` — the window misses nothing.
-/

namespace Logbook.Search

/-! ### Every place in turn -/

/-- Whether the characters of `needle` stand together somewhere in a text. -/
def occursIn (needle : List Char) : List Char → Bool
  | [] => needle.isEmpty
  | c :: rest => needle.isPrefixOf (c :: rest) || occursIn needle rest

@[simp] theorem occursIn_nil (needle : List Char) : occursIn needle [] = needle.isEmpty := rfl

@[simp] theorem occursIn_cons (needle : List Char) (c : Char) (rest : List Char) :
    occursIn needle (c :: rest) = (needle.isPrefixOf (c :: rest) || occursIn needle rest) := rfl

/-- A text holds the needle if it is something, the needle, and something. -/
theorem occursIn_iff (needle text : List Char) :
    occursIn needle text = true ↔ needle <:+: text := by
  induction text with
  | nil => simp
  | cons c rest ih => simp [ih, List.infix_cons_iff]

/-- A text holds no needle that is longer than itself. -/
theorem occursIn_of_length_lt {needle text : List Char} (h : text.length < needle.length) :
    occursIn needle text = false := by
  cases he : occursIn needle text with
  | false => rfl
  | true => exact absurd ((occursIn_iff _ _).1 he).length_le (Nat.not_le.2 h)

/-! ### Fingerprints -/

/-- The weight of a place against the place behind it. -/
def base : UInt64 := 0x9E3779B97F4A7C15

/-- The digit of a character. -/
def digit (c : Char) : UInt64 := c.val.toUInt64

/-- A fingerprint with one more character behind. -/
def push (f : UInt64) (c : Char) : UInt64 := f * base + digit c

/-- The characters of a text as the digits of a number, as far as a word holds it. -/
def fingerprint (text : List Char) : UInt64 := text.foldl push 0

/-- The weight of the place before `n` others. -/
def weight : Nat → UInt64
  | 0 => 1
  | n + 1 => weight n * base

/-- The fingerprint of a window that leaves `c` behind and takes `d` in. -/
def slide (scale : UInt64) (c d : Char) (f : UInt64) : UInt64 := push f d - digit c * scale

theorem foldl_push (text : List Char) (f : UInt64) :
    text.foldl push f = f * weight text.length + fingerprint text := by
  induction text generalizing f with
  | nil => simp [weight, fingerprint]
  | cons c rest ih =>
    rw [fingerprint, List.foldl_cons, List.foldl_cons, ih, ih (push 0 c)]
    simp only [List.length_cons, weight, push]
    grind

/-- A window that moves on by one character has the fingerprint that `slide` says. -/
theorem fingerprint_slide (c d : Char) (middle : List Char) :
    fingerprint (middle ++ [d]) =
      slide (weight (middle.length + 1)) c d (fingerprint (c :: middle)) := by
  have h : fingerprint (c :: middle) = digit c * weight middle.length + fingerprint middle := by
    rw [fingerprint, List.foldl_cons, foldl_push]
    simp [push]
  rw [slide, h, fingerprint, List.foldl_append, List.foldl_cons, List.foldl_nil,
    show List.foldl push 0 middle = fingerprint middle from rfl]
  simp only [push, weight]
  grind

/-! ### The sliding window -/

/-- Searches from a window on.  `f` is the fingerprint of the window at the start of the text, and `front` is
what follows the window. -/
def occursFrom (needle : List Char) (goal scale : UInt64) (f : UInt64) : (text front : List Char) → Bool
  | c :: text, d :: front =>
    (f == goal && needle.isPrefixOf (c :: text)) ||
      occursFrom needle goal scale (slide scale c d f) text front
  | text, _ => f == goal && needle.isPrefixOf text

/-- Whether the characters of `needle` stand together somewhere in a text. -/
def occurs (needle text : List Char) : Bool :=
  occursFrom needle (fingerprint needle) (weight needle.length)
    (fingerprint (text.take needle.length)) text (text.drop needle.length)

/-- Where the needle begins a text, its fingerprint is that of the window. -/
theorem fingerprint_and_isPrefixOf (needle text : List Char) :
    (fingerprint (text.take needle.length) == fingerprint needle && needle.isPrefixOf text) =
      needle.isPrefixOf text := by
  cases h : needle.isPrefixOf text with
  | false => simp
  | true =>
    rw [← List.prefix_iff_eq_take.1 (List.isPrefixOf_iff_prefix.1 h)]
    simp

/-- A window at the start of a text finds what stands anywhere in it. -/
theorem occursFrom_eq_occursIn {needle : List Char} (hne : needle ≠ []) (text : List Char) :
    occursFrom needle (fingerprint needle) (weight needle.length)
        (fingerprint (text.take needle.length)) text (text.drop needle.length) =
      occursIn needle text := by
  induction text with
  | nil => cases needle <;> simp_all [occursFrom]
  | cons c rest ih =>
    cases hdrop : (c :: rest).drop needle.length with
    | nil =>
      -- the window reaches the end, and no later end of the text is long enough
      have hlen := List.drop_eq_nil_iff.1 hdrop
      rw [occursFrom, fingerprint_and_isPrefixOf, occursIn_cons,
        occursIn_of_length_lt (Nat.lt_of_succ_le hlen), Bool.or_false]
      simp
    | cons d front =>
      -- the window moves on by one character
      obtain ⟨n, hn⟩ : ∃ n, needle.length = n + 1 :=
        Nat.exists_eq_add_one.2 (List.length_pos_iff.2 hne)
      rw [hn, List.drop_succ_cons] at hdrop
      have hlt : n < rest.length := by
        have := congrArg List.length hdrop
        simp at this
        omega
      have hwindow : rest.take (n + 1) = rest.take n ++ [d] := by
        rw [List.take_add_one, ← List.head?_drop, hdrop]
        rfl
      have hfront : rest.drop (n + 1) = front := by
        rw [← List.tail_drop, hdrop]
        rfl
      have hslide := fingerprint_slide c d (rest.take n)
      rw [List.length_take, Nat.min_eq_left (Nat.le_of_lt hlt), ← hwindow] at hslide
      rw [hn, hfront] at ih
      rw [occursFrom, fingerprint_and_isPrefixOf, occursIn_cons, hn, List.take_succ_cons, ← hslide, ih]

/-- The sliding window finds what a search at every place finds. -/
@[simp] theorem occurs_eq_occursIn (needle text : List Char) :
    occurs needle text = occursIn needle text := by
  cases needle with
  | nil => cases text <;> simp [occurs, occursFrom, fingerprint]
  | cons c rest => exact occursFrom_eq_occursIn (List.cons_ne_nil c rest) text

end Logbook.Search
