import Logbook.Proofs.Token

/-!
# Documents are read back

A value is read back from its text, on one line or indented, whatever its strings hold.  Its tokens are those of its
parts with punctuation between them, and where a list of tokens starts with those of a value, that value is taken.

## Main definitions

* `Json.IsSpelt` — values whose numbers are natural ones.
* `Json.tokensOf` — the tokens of a value.

## Main results

* `Json.lexes_writeAt` — the text of a value is cut into the tokens of the value.
* `Json.takeValue_tokensOf` — the value is taken from them.
* `Json.read_write` — **a value is read back from its text.**
-/

namespace Logbook.Json

/-! ### Values and their tokens -/

mutual

/-- A value all of whose numbers are natural. -/
def IsSpelt : Json → Prop
  | .number spelling => ∃ n, spelling = Decimal.natural n
  | .array items => AreSpelt items
  | .object members => AreMembersSpelt members
  | _ => True

/-- Items all of whose numbers are natural. -/
def AreSpelt : List Json → Prop
  | [] => True
  | item :: rest => IsSpelt item ∧ AreSpelt rest

/-- Members all of whose numbers are natural. -/
def AreMembersSpelt : List (Option String × Json) → Prop
  | [] => True
  | (_, value) :: rest => IsSpelt value ∧ AreMembersSpelt rest

end

mutual

/-- The tokens of a value. -/
def tokensOf : Json → List Token
  | .null => [.null]
  | .bool b => [.bool b]
  | .number spelling => [.number spelling]
  | .string text => [.string (some text)]
  | .garbled => [.string none]
  | .array [] => [.openArray, .closeArray]
  | .array (item :: rest) => .openArray :: tokensOf item ++ itemTokens rest ++ [.closeArray]
  | .object [] => [.openObject, .closeObject]
  | .object ((name, value) :: rest) =>
    .openObject :: .string name :: .colon :: tokensOf value ++ memberTokens rest ++ [.closeObject]

/-- The tokens of items that follow another one. -/
def itemTokens : List Json → List Token
  | [] => []
  | item :: rest => .comma :: tokensOf item ++ itemTokens rest

/-- The tokens of members that follow another one. -/
def memberTokens : List (Option String × Json) → List Token
  | [] => []
  | (name, value) :: rest => .comma :: .string name :: .colon :: tokensOf value ++ memberTokens rest

end

/-! ### From texts to tokens -/

namespace Token

variable {document : Bytes} {tokens : List Token}

theorem lexes_quotedName (name : Option String) (h : Lexes document tokens) :
    Lexes ((quotedName name).flatMap String.utf8EncodeChar ++ document) (.string name :: tokens) := by
  cases name with
  | none => exact lexes_halfPair h
  | some name => exact lexes_quoted name h

/-- A mark is a token of its own. -/
theorem lexes_mark {b : UInt8} {token : Token} (hb : isBlank b = false)
    (hnext : ∀ rest, next b rest = some (token, rest)) (h : Lexes document tokens) :
    Lexes (b :: document) (token :: tokens) :=
  lexes_next [] hb (hnext document) h

theorem lexes_blanks (n : Nat) (h : Lexes document tokens) :
    Lexes ((List.replicate n ' ').flatMap String.utf8EncodeChar ++ document) tokens := by
  induction n with
  | zero => exact h
  | succ n ih => exact lexes_blank (b := 0x20) rfl ih

theorem lexes_lineBreak (layout : Layout) (depth : Nat) (h : Lexes document tokens) :
    Lexes ((layout.lineBreak depth).flatMap String.utf8EncodeChar ++ document) tokens := by
  cases layout with
  | compact => exact h
  | indented => exact lexes_blank (b := 0x0A) rfl (lexes_blanks (2 * depth) h)

theorem closes_lineBreak (layout : Layout) (depth : Nat) (h : Closes document) :
    Closes ((layout.lineBreak depth).flatMap String.utf8EncodeChar ++ document) := by
  cases layout with
  | compact => exact h
  | indented => exact closes_cons (b := 0x0A) (by decide) _

theorem lexes_colon (layout : Layout) (h : Lexes document tokens) :
    Lexes (layout.colon.flatMap String.utf8EncodeChar ++ document) (.colon :: tokens) := by
  cases layout with
  | compact => exact lexes_mark (b := byte ':') rfl (fun _ => rfl) h
  | indented => exact lexes_mark (b := byte ':') rfl (fun _ => rfl) (lexes_blank (b := 0x20) rfl h)

theorem lexes_null (h : Lexes document tokens) :
    Lexes ("null".toList.flatMap String.utf8EncodeChar ++ document) (.null :: tokens) :=
  lexes_next (b := byte 'n') [byte 'u', byte 'l', byte 'l'] rfl rfl h

theorem lexes_true (h : Lexes document tokens) :
    Lexes ("true".toList.flatMap String.utf8EncodeChar ++ document) (.bool true :: tokens) :=
  lexes_next (b := byte 't') [byte 'r', byte 'u', byte 'e'] rfl rfl h

theorem lexes_false (h : Lexes document tokens) :
    Lexes ("false".toList.flatMap String.utf8EncodeChar ++ document) (.bool false :: tokens) :=
  lexes_next (b := byte 'f') [byte 'a', byte 'l', byte 's', byte 'e'] rfl rfl h

end Token

section Writing

open Token

variable {document : Bytes} {tokens : List Token} (layout : Layout) (depth : Nat)

/-- The bytes of what is written in front of a document. -/
def ahead (chars : List Char) (document : Bytes) : Bytes := chars.flatMap String.utf8EncodeChar ++ document

theorem ahead_append (chars more : List Char) (document : Bytes) :
    ahead (chars ++ more) document = ahead chars (ahead more document) := by
  rw [ahead, ahead, ahead, List.flatMap_append, List.append_assoc]

theorem closes_writeItems (rest : List Json) (h : Closes document) :
    Closes (ahead (writeItems layout depth rest) document) := by
  cases rest with
  | nil => exact h
  | cons item rest =>
    rw [writeItems]
    exact closes_cons (b := byte ',') (by decide) _

theorem closes_writeMembers (rest : List (Option String × Json)) (h : Closes document) :
    Closes (ahead (writeMembers layout depth rest) document) := by
  cases rest with
  | nil => exact h
  | cons member rest =>
    rw [writeMembers]
    exact closes_cons (b := byte ',') (by decide) _

mutual

/-- **The text of a value is cut into the tokens of the value.** -/
theorem lexes_writeAt : ∀ {j : Json} (depth : Nat) {document : Bytes} {tokens : List Token}, j.IsSpelt →
    Closes document → Lexes document tokens →
    Lexes (ahead (writeAt layout depth j) document) (tokensOf j ++ tokens)
  | .null, _, _, _, _, _, h => lexes_null h
  | .bool true, _, _, _, _, _, h => lexes_true h
  | .bool false, _, _, _, _, _, h => lexes_false h
  | .number _, _, _, _, ⟨n, hn⟩, hcloses, h => by
    subst hn
    exact lexes_natural n hcloses h
  | .string text, _, _, _, _, _, h => lexes_quoted text h
  | .garbled, _, _, _, _, _, h => lexes_halfPair h
  | .array [], _, _, _, _, _, h =>
    lexes_mark (b := byte '[') rfl (fun _ => rfl) (lexes_mark (b := byte ']') rfl (fun _ => rfl) h)
  | .array (item :: rest), depth, document, tokens, hj, _, h => by
    -- from the closing bracket back to the opening one
    have hends := closes_lineBreak layout depth (closes_cons (b := byte ']') (by decide) document)
    have hend := lexes_lineBreak layout depth (lexes_mark (b := byte ']') rfl (fun _ => rfl) h)
    have hrest := lexes_writeItems (depth + 1) hj.2 hends hend
    have hitem := lexes_writeAt (depth + 1) hj.1 (closes_writeItems layout (depth + 1) rest hends) hrest
    have hopen := lexes_mark (b := byte '[') rfl (fun _ => rfl) (lexes_lineBreak layout (depth + 1) hitem)
    rw [writeAt, ahead_append, ahead_append, ahead_append, ahead_append, tokensOf, List.append_assoc,
      List.append_assoc, List.cons_append]
    exact hopen
  | .object [], _, _, _, _, _, h =>
    lexes_mark (b := byte '\x7b') rfl (fun _ => rfl) (lexes_mark (b := byte '\x7d') rfl (fun _ => rfl) h)
  | .object ((name, value) :: rest), depth, document, tokens, hj, _, h => by
    have hends := closes_lineBreak layout depth (closes_cons (b := byte '\x7d') (by decide) document)
    have hend := lexes_lineBreak layout depth (lexes_mark (b := byte '\x7d') rfl (fun _ => rfl) h)
    have hrest := lexes_writeMembers (depth + 1) hj.2 hends hend
    have hvalue := lexes_writeAt (depth + 1) hj.1 (closes_writeMembers layout (depth + 1) rest hends) hrest
    have hname := lexes_quotedName name (lexes_colon layout hvalue)
    have hopen := lexes_mark (b := byte '\x7b') rfl (fun _ => rfl) (lexes_lineBreak layout (depth + 1) hname)
    rw [writeAt, ahead_append, ahead_append, ahead_append, ahead_append, ahead_append, ahead_append, tokensOf,
      List.append_assoc, List.append_assoc, List.cons_append]
    exact hopen

/-- So is that of items that follow another one. -/
theorem lexes_writeItems : ∀ {rest : List Json} (depth : Nat) {document : Bytes} {tokens : List Token}, AreSpelt rest →
    Closes document → Lexes document tokens →
    Lexes (ahead (writeItems layout depth rest) document) (itemTokens rest ++ tokens)
  | [], _, _, _, _, _, h => h
  | item :: rest, depth, document, tokens, hrest, hcloses, h => by
    have hmore := lexes_writeItems depth hrest.2 hcloses h
    have hitem := lexes_writeAt depth hrest.1 (closes_writeItems layout depth rest hcloses) hmore
    have hcomma := lexes_mark (b := byte ',') rfl (fun _ => rfl) (lexes_lineBreak layout depth hitem)
    rw [writeItems, ahead_append, ahead_append, itemTokens, List.append_assoc, List.cons_append]
    exact hcomma

/-- And that of members that follow another one. -/
theorem lexes_writeMembers : ∀ {rest : List (Option String × Json)} (depth : Nat) {document : Bytes}
    {tokens : List Token}, AreMembersSpelt rest → Closes document → Lexes document tokens →
    Lexes (ahead (writeMembers layout depth rest) document) (memberTokens rest ++ tokens)
  | [], _, _, _, _, _, h => h
  | (name, value) :: rest, depth, document, tokens, hrest, hcloses, h => by
    have hmore := lexes_writeMembers depth hrest.2 hcloses h
    have hvalue := lexes_writeAt depth hrest.1 (closes_writeMembers layout depth rest hcloses) hmore
    have hname := lexes_quotedName name (lexes_colon layout hvalue)
    have hcomma := lexes_mark (b := byte ',') rfl (fun _ => rfl) (lexes_lineBreak layout depth hname)
    rw [writeMembers, ahead_append, ahead_append, ahead_append, ahead_append, memberTokens, List.append_assoc,
      List.cons_append]
    exact hcomma

end

end Writing

/-! ### From tokens to values -/

/-- The tokens of a value do not start with the end of an array. -/
theorem head?_tokensOf (j : Json) (rest : List Token) : (tokensOf j ++ rest).head? ≠ some .closeArray := by
  cases j with
  | array items => cases items <;> exact nofun
  | object members => cases members <;> exact nofun
  | _ => exact nofun

theorem takeValue_openArray (fuel : Nat) {tokens : List Token} (h : tokens.head? ≠ some .closeArray) :
    takeValue (fuel + 1) (.openArray :: tokens) =
      (fun r => (.array r.1, r.2)) <$> takeItems fuel tokens := by
  cases tokens with
  | nil => rfl
  | cons token tokens =>
    cases token with
    | closeArray => exact absurd rfl h
    | _ => rfl

theorem takeItems_cons {fuel : Nat} {item : Json} {items : List Json} {tokens next rest : List Token}
    (hitem : takeValue fuel tokens = some (item, .comma :: next)) (hitems : takeItems fuel next = some (items, rest)) :
    takeItems (fuel + 1) tokens = some (item :: items, rest) := by
  rw [takeItems, hitem]
  show (takeItems fuel next >>= fun r => some (item :: r.1, r.2)) = _
  rw [hitems]
  rfl

theorem takeItems_last {fuel : Nat} {item : Json} {tokens rest : List Token}
    (hitem : takeValue fuel tokens = some (item, .closeArray :: rest)) :
    takeItems (fuel + 1) tokens = some ([item], rest) := by
  rw [takeItems, hitem]
  rfl

theorem takeMembers_cons {fuel : Nat} {name : Option String} {value : Json} {members : List (Option String × Json)}
    {tokens next rest : List Token} (hvalue : takeValue fuel tokens = some (value, .comma :: next))
    (hmembers : takeMembers fuel next = some (members, rest)) :
    takeMembers (fuel + 1) (.string name :: .colon :: tokens) = some ((name, value) :: members, rest) := by
  rw [takeMembers, hvalue]
  show (takeMembers fuel next >>= fun r => some ((name, value) :: r.1, r.2)) = _
  rw [hmembers]
  rfl

theorem takeMembers_last {fuel : Nat} {name : Option String} {value : Json} {tokens rest : List Token}
    (hvalue : takeValue fuel tokens = some (value, .closeObject :: rest)) :
    takeMembers (fuel + 1) (.string name :: .colon :: tokens) = some ([(name, value)], rest) := by
  rw [takeMembers, hvalue]
  rfl

mutual

/-- **A value is taken from its tokens, whatever follows them.**  Two steps for each token are enough: one takes a value,
and one goes on with the list that the value stands in. -/
theorem takeValue_tokensOf : ∀ (j : Json) (fuel : Nat) (rest : List Token), 2 * (tokensOf j).length ≤ fuel →
    takeValue fuel (tokensOf j ++ rest) = some (j, rest)
  | .null, fuel + 1, _, _ | .bool _, fuel + 1, _, _ | .number _, fuel + 1, _, _ | .string _, fuel + 1, _, _
  | .garbled, fuel + 1, _, _ | .array [], fuel + 1, _, _ | .object [], fuel + 1, _, _ => rfl
  | .array (item :: items), fuel + 1, rest, h => by
    simp only [tokensOf, List.cons_append, List.length_append, List.length_cons] at h
    have hitems := takeItems_itemTokens item items fuel rest (by rw [List.length_append]; omega)
    have htokens : tokensOf (.array (item :: items)) ++ rest =
        .openArray :: (tokensOf item ++ (itemTokens items ++ .closeArray :: rest)) := by
      simp only [tokensOf, List.cons_append, List.append_assoc, List.nil_append]
    rw [htokens, takeValue_openArray _ (head?_tokensOf item _), hitems]
    rfl
  | .object ((name, value) :: members), fuel + 1, rest, h => by
    simp only [tokensOf, List.cons_append, List.length_append, List.length_cons] at h
    have hmembers := takeMembers_memberTokens name value members fuel rest
      (by rw [List.length_append]; omega)
    have htokens : tokensOf (.object ((name, value) :: members)) ++ rest =
        .openObject :: .string name :: .colon ::
          (tokensOf value ++ (memberTokens members ++ .closeObject :: rest)) := by
      simp only [tokensOf, List.cons_append, List.append_assoc, List.nil_append]
    rw [htokens, takeValue, hmembers]
    · rfl
    · exact nofun

/-- Items are taken from their tokens up to the end of the array. -/
theorem takeItems_itemTokens : ∀ (item : Json) (items : List Json) (fuel : Nat) (rest : List Token),
    2 * (tokensOf item ++ itemTokens items).length < fuel →
    takeItems fuel (tokensOf item ++ (itemTokens items ++ .closeArray :: rest)) = some (item :: items, rest)
  | item, [], fuel + 1, rest, h => by
    rw [List.length_append] at h
    exact takeItems_last (takeValue_tokensOf item _ _ (by omega))
  | item, item' :: items, fuel + 1, rest, h => by
    simp only [itemTokens, List.cons_append, List.length_append, List.length_cons] at h
    have hitems := takeItems_itemTokens item' items fuel rest (by rw [List.length_append]; omega)
    have htokens : itemTokens (item' :: items) ++ .closeArray :: rest =
        .comma :: (tokensOf item' ++ (itemTokens items ++ .closeArray :: rest)) := by
      simp only [itemTokens, List.cons_append, List.append_assoc]
    rw [htokens]
    exact takeItems_cons (takeValue_tokensOf item _ _ (by omega)) hitems

/-- Members are taken from their tokens up to the end of the object. -/
theorem takeMembers_memberTokens : ∀ (name : Option String) (value : Json) (members : List (Option String × Json))
    (fuel : Nat) (rest : List Token), 2 * (tokensOf value ++ memberTokens members).length < fuel →
    takeMembers fuel (.string name :: .colon :: (tokensOf value ++ (memberTokens members ++ .closeObject :: rest))) =
      some ((name, value) :: members, rest)
  | name, value, [], fuel + 1, rest, h => by
    rw [List.length_append] at h
    exact takeMembers_last (takeValue_tokensOf value _ _ (by omega))
  | name, value, (name', value') :: members, fuel + 1, rest, h => by
    simp only [memberTokens, List.cons_append, List.length_append, List.length_cons] at h
    have hmembers := takeMembers_memberTokens name' value' members fuel rest
      (by rw [List.length_append]; omega)
    have htokens : memberTokens ((name', value') :: members) ++ .closeObject :: rest =
        .comma :: .string name' :: .colon :: (tokensOf value' ++ (memberTokens members ++ .closeObject :: rest)) := by
      simp only [memberTokens, List.cons_append, List.append_assoc]
    rw [htokens]
    exact takeMembers_cons (takeValue_tokensOf value _ _ (by omega)) hmembers

end

/-- **A value is read back from its text**, however it is laid out. -/
theorem read_write {j : Json} (hj : j.IsSpelt) (layout : Layout) : read (Utf8.encode (j.write layout)) = some j := by
  have hlex : Token.lex (Utf8.encode (j.write layout)) = some (tokensOf j) := by
    have h := lexes_writeAt layout 0 hj Token.closes_nil Token.lexes_nil
    rw [ahead, List.append_nil, List.append_nil] at h
    rw [Utf8.encode, write, String.toList_ofList]
    exact Token.lex_eq h
  have htake := takeValue_tokensOf j _ [] (Nat.le_refl _)
  rw [List.append_nil] at htake
  rw [read, hlex]
  show ofTokens (tokensOf j) = some j
  rw [ofTokens, htake]
  rfl

end Logbook.Json
