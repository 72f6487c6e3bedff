import MapBallot.Json.Printer
import MapBallot.Proofs.Json.Codec

/-!
# `MapBallot.Proofs.Json.Spelling` — what is printed is read back

Documents are printed on one line or over several, and the reader takes either. Both printers put
the parts of a container between brackets, with commas and possibly blanks between them; they differ in
the blanks only. A text *spells* a document if the reader comes to the draft of that document at the end of
the text, whatever follows. The containers of spelled parts are spelled with any blanks, so each printer is
a case of that.

Numbers are read back if they are whole and fit 64 bits. Doubles need not be.

## Contents

* `scanString?_printChars` — quoted texts;
* `Literal.scanUnsigned?_toDigits`, `readNumber_toString` — whole numbers;
* `Spells` — texts that spell a document; `spells_string`, `spells_integer`, `spells_array`, `spells_object`;
* `Json.Exact` — documents whose numbers are whole; `spells_print`, `spells_printIndented`;
* `ofText_printed` — both printers.
-/

namespace MapBallot

namespace Json

/-! ## Quoted texts -/

/-- Two hexadecimal digits of a control character. -/
theorem hexUnit?_control : ∀ n < 32,
    ((if n < 16 then "0" else "") ++ Text.hexDigits n).toList =
      [Nat.digitChar (n / 16), Nat.digitChar (n % 16)] ∧
    hexUnit? '0' '0' (Nat.digitChar (n / 16)) (Nat.digitChar (n % 16)) = some n := by
  decide

/-- Each character is read back as it was. -/
theorem scanPieces?_printChar (c : Char) (rest : List Char) :
    scanPieces? ((printChar c).toList ++ rest) =
      (scanPieces? rest).map fun (ps, rest) => (.char c :: ps, rest) := by
  by_cases simple : c ∈ ['"', '\\', '\n', '\r', '\t', '\x08', '\x0c']
  · simp only [List.mem_cons, List.not_mem_nil, or_false] at simple
    rcases simple with rfl | rfl | rfl | rfl | rfl | rfl | rfl <;> rfl
  simp only [List.mem_cons, List.not_mem_nil, or_false, not_or] at simple
  obtain ⟨quote, backslash, newline, back, tab, backspace, page⟩ := simple
  have eight : c.toNat ≠ 8 := fun h => backspace (Char.toNat_inj.1 h)
  have twelve : c.toNat ≠ 12 := fun h => page (Char.toNat_inj.1 h)
  unfold printChar
  simp only [beq_iff_eq, quote, backslash, newline, back, tab, eight, twelve, if_false]
  split
  · next control =>
    obtain ⟨digits, unit⟩ := hexUnit?_control c.toNat control
    have piece : Piece.ofUnit c.toNat = .char c := by
      rw [Piece.ofUnit, if_neg (by simp; omega), Char.ofNat_toNat]
    rw [String.append_assoc, String.toList_append, digits]
    show scanPieces? ('\\' :: 'u' :: '0' :: '0' :: _ :: _ :: rest) = _
    rw [scanPieces?, unit]
    dsimp only
    rw [piece]
  · next plain =>
    rw [String.toList_singleton, List.singleton_append, scanPieces?]
    · simp [plain, backslash]
    · exact quote
    · exact fun _ _ _ _ _ h => absurd h backslash
    · exact fun _ _ h => absurd h backslash

theorem scanPieces?_printChars (cs rest : List Char) :
    scanPieces? (cs.flatMap (fun c => (printChar c).toList) ++ '"' :: rest) =
      some (cs.map .char, rest) := by
  induction cs with
  | nil => rfl
  | cons c cs ih =>
    rw [List.flatMap_cons, List.append_assoc, scanPieces?_printChar, ih]
    rfl

theorem joinPieces?_map_char (cs : List Char) : joinPieces? (cs.map .char) = some cs := by
  induction cs with
  | nil => rfl
  | cons c cs ih => rw [List.map_cons, joinPieces?, ih, Option.map_some]

theorem toList_printString (s : String) :
    (printString s).toList = '"' :: (s.toList.flatMap (fun c => (printChar c).toList) ++ ['"']) := by
  simp [printString, String.toList_append, String.toList_join, List.flatMap_map]

/-- **What is printed as a quoted text is read back.** -/
theorem scanString?_printChars (s : String) (rest : List Char) :
    scanString? (s.toList.flatMap (fun c => (printChar c).toList) ++ '"' :: rest) =
      some (some s, rest) := by
  rw [scanString?, scanPieces?_printChars, Option.map_some]
  dsimp only
  rw [joinPieces?_map_char, Option.map_some, String.ofList_toList]

/-! ## Whole numbers -/

/-- What follows a value: a blank, a comma, a closing bracket, or nothing. None of them prolongs a
number. -/
def Ends (rest : List Char) : Prop :=
  ∀ c ∈ rest.head?, c ∈ [' ', '\t', '\n', '\r', ',', ']', '\x7d']

theorem ends_nil : Ends [] := nofun

theorem Ends.isDigit {rest : List Char} (ends : Ends rest) : ∀ c ∈ rest.head?, c.isDigit = false := by
  intro c h
  have ending := ends c h
  simp only [List.mem_cons, List.not_mem_nil, or_false] at ending
  rcases ending with rfl | rfl | rfl | rfl | rfl | rfl | rfl <;> rfl

theorem Ends.scanExponent? {rest : List Char} (ends : Ends rest) :
    scanExponent? rest = some (none, rest) := by
  cases rest with
  | nil => rfl
  | cons c rest =>
    have ending := ends c rfl
    simp only [List.mem_cons, List.not_mem_nil, or_false] at ending
    rcases ending with rfl | rfl | rfl | rfl | rfl | rfl | rfl <;> rfl

/-- Only the number zero has a leading zero. -/
theorem head?_toDigits {n : Nat} (pos : 0 < n) : (Nat.toDigits 10 n).head? ≠ some '0' := by
  induction n using Nat.strongRecOn with
  | _ n ih =>
    rw [Nat.toDigits_eq_if (by decide)]
    split
    · next small =>
      have digit : ∀ d < 10, 0 < d → [Nat.digitChar d].head? ≠ some '0' := by decide
      exact digit n small pos
    · next large =>
      have shorter : 0 < n / 10 := by omega
      obtain ⟨d, ds, digits⟩ := List.exists_cons_of_ne_nil (Nat.toDigits_ne_nil (n := n / 10) (b := 10))
      have first := ih (n / 10) (by omega) shorter
      rw [digits] at first ⊢
      exact first

theorem spanDigits_append {ds rest : List Char} (digits : ∀ c ∈ ds, c.isDigit = true)
    (ends : ∀ c ∈ rest.head?, c.isDigit = false) : spanDigits (ds ++ rest) = (ds, rest) := by
  have stops : rest.takeWhile Char.isDigit = [] ∧ rest.dropWhile Char.isDigit = rest := by
    cases rest with
    | nil => exact ⟨rfl, rfl⟩
    | cons c rest =>
      have other : c.isDigit = false := ends c rfl
      simp [other]
  rw [spanDigits, List.takeWhile_append_of_pos digits, List.dropWhile_append_of_pos digits, stops.1,
    stops.2, List.append_nil]

/-- A whole number is one literal. -/
theorem Literal.scanUnsigned?_toDigits (negative : Bool) (n : Nat) {rest : List Char} (ends : Ends rest) :
    Literal.scanUnsigned? negative (Nat.toDigits 10 n ++ rest) =
      some (⟨negative, Nat.toDigits 10 n, [], none, true⟩, rest) := by
  have digits : ∀ c ∈ Nat.toDigits 10 n, c.isDigit = true :=
    fun _ h => Nat.isDigit_of_mem_toDigits (by decide) (by decide) h
  rw [scanUnsigned?, spanDigits_append digits ends.isDigit]
  dsimp only
  split
  · next none => exact absurd none Nat.toDigits_ne_nil
  · next long =>
    rcases Nat.eq_zero_or_pos n with rfl | pos
    · cases long
    · exact absurd (by rw [long]; rfl) (head?_toDigits pos)
  · split
    · exact absurd (ends '.' rfl) (by decide)
    · rw [ends.scanExponent?]
      rfl

/-- The value of a whole literal. -/
theorem Literal.number?_toDigits (negative : Bool) (n : Nat) :
    Literal.number? ⟨negative, Nat.toDigits 10 n, [], none, true⟩ =
      if n < UInt64.size then
        if !negative then some (.integer n)
        else if n == 0 || UInt64.size / 2 < n then some (.real (-n.toUInt64.toFloat))
        else some (.integer (-n))
      else (Literal.real? ⟨negative, Nat.toDigits 10 n, [], none, true⟩).map .real := by
  have value : (Nat.toDigits 10 n).foldl (fun n c => n * 10 + digitValue c) 0 = n := by
    calc (Nat.toDigits 10 n).foldl (fun n c => n * 10 + digitValue c) 0
      _ = Nat.ofDigitChars 10 (Nat.toDigits 10 n) 0 := by
        simp only [Nat.ofDigitChars_eq_foldl, Nat.mul_comm 10, digitValue]
      _ = n := Nat.ofDigitChars_ten_toDigits
  rw [number?, value]
  simp only [Bool.true_and, decide_eq_true_eq]

theorem toList_ofNat (n : Nat) : (toString (Int.ofNat n)).toList = Nat.toDigits 10 n := by
  show n.repr.toList = _
  rw [Nat.repr_eq_ofList_toDigits, String.toList_ofList]

theorem toList_negSucc (n : Nat) :
    (toString (Int.negSucc n)).toList = '-' :: Nat.toDigits 10 (n + 1) := by
  show ("-" ++ (n + 1).repr).toList = _
  simp [Nat.repr_eq_ofList_toDigits]

/-- A character with which a number starts. -/
def isNumberStart (c : Char) : Bool := c.isDigit || c == '-'

theorem exists_digit (n : Nat) : ∃ d ds, Nat.toDigits 10 n = d :: ds ∧ d.isDigit = true := by
  obtain ⟨d, ds, digits⟩ := List.exists_cons_of_ne_nil (Nat.toDigits_ne_nil (n := n) (b := 10))
  have mem : d ∈ Nat.toDigits 10 n := digits ▸ List.mem_cons_self
  exact ⟨d, ds, digits, Nat.isDigit_of_mem_toDigits (by decide) (by decide) mem⟩

theorem exists_numberStart (z : Int) :
    ∃ c cs, (toString z).toList = c :: cs ∧ isNumberStart c = true := by
  cases z with
  | ofNat n =>
    obtain ⟨d, ds, digits, digit⟩ := exists_digit n
    exact ⟨d, ds, (toList_ofNat n).trans digits, by simp [isNumberStart, digit]⟩
  | negSucc n => exact ⟨'-', _, toList_negSucc n, rfl⟩

/-- **A whole number that fits 64 bits is read back.** -/
theorem readNumber_toString {z : Int} (least : -0x8000000000000000 ≤ z) (greatest : z < 0x10000000000000000)
    {rest : List Char} (ends : Ends rest) :
    readNumber ((toString z).toList ++ rest) = (.number (some (.integer z)), some rest) := by
  cases z with
  | ofNat n =>
    have fits : n < UInt64.size := Int.ofNat_lt.1 greatest
    have first : Literal.scan? (Nat.toDigits 10 n ++ rest) =
        Literal.scanUnsigned? false (Nat.toDigits 10 n ++ rest) := by
      obtain ⟨d, ds, digits, digit⟩ := exists_digit n
      rw [digits, List.cons_append, Literal.scan?]
      rintro cs h
      obtain rfl := (List.cons.inj h).1
      cases digit
    rw [toList_ofNat, readNumber, first, Literal.scanUnsigned?_toDigits false n ends]
    dsimp only
    rw [Literal.number?_toDigits, if_pos fits]
    rfl
  | negSucc n =>
    have fits : n + 1 ≤ UInt64.size / 2 := by
      show n + 1 ≤ 0x8000000000000000
      omega
    have small : ¬ (n + 1 == 0 || UInt64.size / 2 < n + 1) = true := by simpa using fits
    rw [toList_negSucc, readNumber, List.cons_append, Literal.scan?,
      Literal.scanUnsigned?_toDigits true (n + 1) ends]
    dsimp only
    rw [Literal.number?_toDigits, if_pos (Nat.lt_of_le_of_lt fits (by decide)),
      if_neg (by decide), if_neg small]
    rfl

/-! ## Texts that spell a document -/

/-- A text of nothing but blanks. -/
def Blank (cs : List Char) : Prop := ∀ c ∈ cs, c ∈ [' ', '\t', '\n', '\r']

theorem blank_nil : Blank [] := fun _ h => absurd h List.not_mem_nil

theorem blank_space : Blank [' '] := by
  intro c h
  obtain rfl := List.mem_singleton.1 h
  exact .head _

theorem skipBlanks_append {blanks cs : List Char} (blank : Blank blanks) :
    skipBlanks (blanks ++ cs) = skipBlanks cs := by
  refine List.dropWhile_append_of_pos fun c h => ?_
  have blank := blank c h
  simp only [List.mem_cons, List.not_mem_nil, or_false] at blank
  rcases blank with rfl | rfl | rfl | rfl <;> rfl

/-- A text that starts with neither a blank nor a closing bracket. -/
def Opens (cs : List Char) : Prop :=
  ∃ c rest, cs = c :: rest ∧ c ∉ [' ', '\t', '\n', '\r', ']', '\x7d']

theorem Opens.skipBlanks {cs : List Char} (opens : Opens cs) (rest : List Char) :
    skipBlanks (cs ++ rest) = cs ++ rest := by
  obtain ⟨c, cs, rfl, other⟩ := opens
  simp only [List.mem_cons, List.not_mem_nil, or_false, not_or] at other
  have solid : isDocumentBlank c = false := by
    simp [isDocumentBlank, other.1, other.2.1, other.2.2.1, other.2.2.2.1]
  exact List.dropWhile_cons_of_neg (by simp [solid])

/-- A text spells a document if the reader comes to the draft of the document at the end of the text,
whatever follows. The fuel that it takes is twice the length. -/
structure Spells (text : List Char) (j : Json) : Prop where
  opens : Opens text
  read : ∀ rest, Ends rest → ∀ fuel, 2 * text.length ≤ fuel + 1 →
    readValue (fuel + 1) (text ++ rest) = (.ofJson j, some rest)

/-- Blanks before a value do not matter. -/
theorem readValue_append {blanks cs : List Char} (blank : Blank blanks) (fuel : Nat) :
    readValue fuel (blanks ++ cs) = readValue fuel cs := by
  cases fuel with
  | zero => rfl
  | succ fuel => rw [readValue, readValue, skipBlanks_append blank]

theorem spells_null : Spells "null".toList .null where
  opens := ⟨'n', _, rfl, by decide⟩
  read _ _ _ _ := rfl

theorem spells_bool (b : Bool) : Spells (if b then "true" else "false").toList (.bool b) := by
  cases b with
  | true => exact ⟨⟨'t', _, rfl, by decide⟩, fun _ _ _ _ => rfl⟩
  | false => exact ⟨⟨'f', _, rfl, by decide⟩, fun _ _ _ _ => rfl⟩

theorem spells_string (s : String) : Spells (printString s).toList (.string s) := by
  rw [toList_printString]
  refine ⟨⟨'"', _, rfl, by decide⟩, fun rest _ fuel _ => ?_⟩
  have quote (cs : List Char) : skipBlanks ('"' :: cs) = '"' :: cs := rfl
  rw [List.cons_append, List.append_assoc, List.singleton_append]
  simp only [readValue, quote, scanString?_printChars, Draft.ofJson]

theorem readValue_number {c : Char} (start : isNumberStart c = true) (fuel : Nat) (cs : List Char) :
    readValue (fuel + 1) (c :: cs) = readNumber (c :: cs) := by
  have apart (d : Char) (other : isNumberStart d = false) : c ≠ d := by
    rintro rfl
    exact absurd start (by simp [other])
  have solid : skipBlanks (c :: cs) = c :: cs := by
    refine List.dropWhile_cons_of_neg ?_
    simp [isDocumentBlank, apart ' ' (by decide), apart '\t' (by decide), apart '\n' (by decide),
      apart '\r' (by decide)]
  rw [readValue, solid]
  split
  all_goals first
    | rfl
    | next h => exact absurd (List.cons.inj h).1 (apart _ (by decide))
    | next h => cases h

theorem spells_integer {z : Int} (least : -0x8000000000000000 ≤ z) (greatest : z < 0x10000000000000000) :
    Spells (toString z).toList (.number (.integer z)) := by
  obtain ⟨c, cs, text, start⟩ := exists_numberStart z
  have read {rest : List Char} (ends : Ends rest) := readNumber_toString least greatest ends
  rw [text] at read ⊢
  refine ⟨⟨c, cs, rfl, ?_⟩, fun rest ends fuel _ => ?_⟩
  · intro mem
    simp only [List.mem_cons, List.not_mem_nil, or_false] at mem
    rcases mem with rfl | rfl | rfl | rfl | rfl | rfl <;> cases start
  · rw [List.cons_append, readValue_number start]
    exact read ends

/-! ## Containers -/

variable {before between after : List Char}

theorem Blank.ends {blanks rest : List Char} (blank : Blank blanks) (ends : Ends rest) :
    Ends (blanks ++ rest) := by
  cases blanks with
  | nil => exact ends
  | cons b blanks =>
    rintro c ⟨⟩
    exact List.mem_append_left [',', ']', '\x7d'] (blank b (.head _))

theorem ends_cons {c : Char} (h : c ∈ [' ', '\t', '\n', '\r', ',', ']', '\x7d']) (rest : List Char) :
    Ends (c :: rest) := by
  rintro _ ⟨⟩
  exact h

/-- The first of several texts opens all of them. -/
theorem Opens.intercalate {text : List Char} (h : Opens text) (sep : List Char) (texts : List (List Char)) :
    Opens (sep.intercalate (text :: texts)) := by
  obtain ⟨c, cs, rfl, other⟩ := h
  exact ⟨c, _, List.intercalate_cons_cons_left, other⟩

theorem Opens.length_pos {text : List Char} (h : Opens text) : 0 < text.length := by
  obtain ⟨c, cs, rfl, _⟩ := h
  exact Nat.succ_pos _

theorem Opens.append {text : List Char} (h : Opens text) (rest : List Char) : Opens (text ++ rest) := by
  obtain ⟨c, cs, rfl, other⟩ := h
  exact ⟨c, cs ++ rest, rfl, other⟩

theorem not_opens {c : Char} (h : c ∈ [' ', '\t', '\n', '\r', ']', '\x7d']) (rest : List Char) :
    ¬ Opens (c :: rest) := by
  rintro ⟨_, _, ⟨⟩, other⟩
  exact other h

section

variable {fuel : Nat} {cs rest rest' : List Char} {d : Draft}

theorem readItems_last (value : readValue fuel cs = (d, some rest))
    (closes : skipBlanks rest = ']' :: rest') : readItems (fuel + 1) cs = ([d], some rest') := by
  rw [readItems, value]
  dsimp only
  rw [closes]
  rfl

theorem readItems_next {ds : List Draft} {cs' : List Char} {left : Option (List Char)}
    (value : readValue fuel cs = (d, some rest)) (comma : skipBlanks rest = ',' :: rest')
    (gap : skipBlanks rest' = cs') (opens : Opens cs') (later : readItems fuel cs' = (ds, left)) :
    readItems (fuel + 1) cs = (d :: ds, left) := by
  simp only [readItems, value, comma, gap]
  split
  · exact absurd opens (not_opens (by decide) _)
  · rw [later]

theorem readMembers_last {s : Option String} {named value : List Char}
    (name : scanString? cs = some (s, named)) (colon : skipBlanks named = ':' :: value)
    (read : readValue fuel value = (d, some rest)) (closes : skipBlanks rest = '\x7d' :: rest') :
    readMembers (fuel + 1) ('"' :: cs) = ([(.string s, d)], some rest') := by
  have quote : skipBlanks ('"' :: cs) = '"' :: cs := rfl
  simp only [readMembers, quote, name, colon, read, closes]

theorem readMembers_next {s : Option String} {named value : List Char} {ms : List (Draft × Draft)}
    {cs' : List Char} {left : Option (List Char)} (name : scanString? cs = some (s, named))
    (colon : skipBlanks named = ':' :: value) (read : readValue fuel value = (d, some rest))
    (comma : skipBlanks rest = ',' :: rest') (gap : skipBlanks rest' = cs') (opens : Opens cs')
    (later : readMembers fuel cs' = (ms, left)) :
    readMembers (fuel + 1) ('"' :: cs) = ((.string s, d) :: ms, left) := by
  have quote : skipBlanks ('"' :: cs) = '"' :: cs := rfl
  simp only [readMembers, quote, name, colon, read, comma, gap]
  split
  · exact absurd opens (not_opens (by decide) _)
  · rw [later]

theorem readValue_noItems (closes : skipBlanks cs = ']' :: rest) :
    readValue (fuel + 1) ('[' :: cs) = (.array [] true, some rest) := by
  have bracket : skipBlanks ('[' :: cs) = '[' :: cs := rfl
  simp only [readValue, bracket, closes]

theorem readValue_noMembers (closes : skipBlanks cs = '\x7d' :: rest) :
    readValue (fuel + 1) ('\x7b' :: cs) = (.object [] true, some rest) := by
  have brace : skipBlanks ('\x7b' :: cs) = '\x7b' :: cs := rfl
  simp only [readValue, brace, closes]

theorem readValue_array {ds : List Draft} {cs' : List Char} (start : skipBlanks cs = cs')
    (opens : Opens cs') (items : readItems fuel cs' = (ds, some rest)) :
    readValue (fuel + 1) ('[' :: cs) = (.array ds true, some rest) := by
  have bracket : skipBlanks ('[' :: cs) = '[' :: cs := rfl
  simp only [readValue, bracket, start]
  split
  · exact absurd opens (not_opens (by decide) _)
  · rw [items]
    rfl

theorem readValue_object {ms : List (Draft × Draft)} {cs' : List Char} (start : skipBlanks cs = cs')
    (opens : Opens cs') (members : readMembers fuel cs' = (ms, some rest)) :
    readValue (fuel + 1) ('\x7b' :: cs) = (.object ms true, some rest) := by
  have brace : skipBlanks ('\x7b' :: cs) = '\x7b' :: cs := rfl
  simp only [readValue, brace, start]
  split
  · exact absurd opens (not_opens (by decide) _)
  · rw [members]
    rfl

end

/-- The items of a sequence, with commas and blanks between them. -/
theorem readItems_spelled (gap : Blank between) (last : Blank after) {texts : List (List Char)}
    {js : List Json} (all : List.Forall₂ Spells texts js) (nonempty : texts ≠ []) (rest : List Char)
    {fuel : Nat} (enough : 2 * ((',' :: between).intercalate texts).length ≤ fuel) :
    readItems (fuel + 1) ((',' :: between).intercalate texts ++ (after ++ ']' :: rest)) =
      (js.map .ofJson, some rest) := by
  induction all generalizing fuel with
  | nil => exact absurd rfl nonempty
  | @cons text j texts js first others ih =>
    have long := first.opens.length_pos
    -- What follows an item is a comma and the next item, or what closes the sequence.
    cases texts with
    | nil =>
      cases others
      rw [List.intercalate_singleton] at enough ⊢
      obtain ⟨fuel, rfl⟩ : ∃ k, fuel = k + 1 := ⟨fuel - 1, by omega⟩
      have closes : Ends (after ++ ']' :: rest) := last.ends (ends_cons (by decide) _)
      exact readItems_last (first.read _ closes fuel enough) (skipBlanks_append last)
    | cons next texts =>
      have opens : Opens ((',' :: between).intercalate (next :: texts)) := by
        cases others with
        | cons second _ => exact second.opens.intercalate _ _
      rw [List.intercalate_cons_cons] at enough ⊢
      simp only [List.length_append, List.length_cons] at enough
      obtain ⟨fuel, rfl⟩ : ∃ k, fuel = k + 1 := ⟨fuel - 1, by omega⟩
      rw [List.append_assoc, List.append_assoc, List.cons_append]
      exact readItems_next (first.read _ (ends_cons (by decide) _) fuel (by omega)) rfl
        ((skipBlanks_append gap).trans (opens.skipBlanks _)) (opens.append _)
        (ih (List.cons_ne_nil _ _) (by omega))

/-- A text spells a member of an object: its name, a colon, possibly blanks, and its value. -/
def SpellsMember (text : List Char) (m : String × Json) : Prop :=
  ∃ gap value, text = (printString m.1).toList ++ ':' :: (gap ++ value) ∧ Blank gap ∧ Spells value m.2

namespace SpellsMember

variable {text : List Char} {m : String × Json}

theorem opens (h : SpellsMember text m) : Opens text := by
  obtain ⟨gap, value, rfl, _, _⟩ := h
  rw [toList_printString]
  exact ⟨'"', _, rfl, by decide⟩

/-- The name and the value of a member, and what follows it. -/
theorem read (h : SpellsMember text m) {rest : List Char} (ends : Ends rest) {fuel : Nat}
    (enough : 2 * text.length ≤ fuel + 1) :
    ∃ cs named, text ++ rest = '"' :: cs ∧ scanString? cs = some (some m.1, ':' :: named) ∧
      readValue (fuel + 1) named = (.ofJson m.2, some rest) := by
  obtain ⟨gap, value, rfl, blank, spells⟩ := h
  refine ⟨m.1.toList.flatMap (fun c => (printChar c).toList) ++ '"' :: ':' :: (gap ++ (value ++ rest)),
    gap ++ (value ++ rest), ?_, scanString?_printChars m.1 _, ?_⟩
  · simp [toList_printString]
  · rw [readValue_append blank]
    refine spells.read rest ends fuel ?_
    simp only [List.length_append, List.length_cons] at enough
    omega

end SpellsMember

/-- The members of an object, with commas and blanks between them. -/
theorem readMembers_spelled (gap : Blank between) (last : Blank after) {texts : List (List Char)}
    {ms : List (String × Json)} (all : List.Forall₂ SpellsMember texts ms) (nonempty : texts ≠ [])
    (rest : List Char) {fuel : Nat} (enough : 2 * ((',' :: between).intercalate texts).length ≤ fuel) :
    readMembers (fuel + 1) ((',' :: between).intercalate texts ++ (after ++ '\x7d' :: rest)) =
      (ms.map fun m => (.string (some m.1), .ofJson m.2), some rest) := by
  induction all generalizing fuel with
  | nil => exact absurd rfl nonempty
  | @cons text m texts ms first others ih =>
    have long := first.opens.length_pos
    cases texts with
    | nil =>
      cases others
      rw [List.intercalate_singleton] at enough ⊢
      obtain ⟨fuel, rfl⟩ : ∃ k, fuel = k + 1 := ⟨fuel - 1, by omega⟩
      have closes : Ends (after ++ '\x7d' :: rest) := last.ends (ends_cons (by decide) _)
      obtain ⟨cs, named, start, name, value⟩ := first.read closes enough
      rw [start]
      exact readMembers_last name rfl value (skipBlanks_append last)
    | cons next texts =>
      have opens : Opens ((',' :: between).intercalate (next :: texts)) := by
        cases others with
        | cons second _ => exact second.opens.intercalate _ _
      rw [List.intercalate_cons_cons] at enough ⊢
      simp only [List.length_append, List.length_cons] at enough
      obtain ⟨fuel, rfl⟩ : ∃ k, fuel = k + 1 := ⟨fuel - 1, by omega⟩
      rw [List.append_assoc, List.append_assoc, List.cons_append]
      have enough : 2 * text.length ≤ fuel + 1 := by omega
      obtain ⟨cs, named, start, name, value⟩ := first.read (ends_cons (c := ',') (by decide) _) enough
      rw [start]
      exact readMembers_next name rfl value rfl ((skipBlanks_append gap).trans (opens.skipBlanks _))
        (opens.append _) (ih (List.cons_ne_nil _ _) (by omega))

/-- The parts of a container between brackets, with commas and blanks. -/
def bracketed (opening closing : Char) (before between after : List Char) (texts : List (List Char)) :
    List Char :=
  opening :: (before ++ ((',' :: between).intercalate texts ++ (after ++ [closing])))

theorem bracketed_append (opening closing : Char) (texts : List (List Char)) (rest : List Char) :
    bracketed opening closing before between after texts ++ rest =
      opening :: (before ++ ((',' :: between).intercalate texts ++ (after ++ closing :: rest))) := by
  simp [bracketed]

theorem spells_array (lead : Blank before) (gap : Blank between) (last : Blank after)
    {texts : List (List Char)} {js : List Json} (all : List.Forall₂ Spells texts js) :
    Spells (bracketed '[' ']' before between after texts) (.array js) where
  opens := ⟨'[', _, rfl, by decide⟩
  read rest _ fuel enough := by
    rw [bracketed_append, Draft.ofJson_array]
    -- Only an empty sequence may close at once: the reader looks for the bracket before any item.
    cases all with
    | nil => exact readValue_noItems ((skipBlanks_append lead).trans (skipBlanks_append last))
    | @cons text j texts js first others =>
      have opens : Opens ((',' :: between).intercalate (text :: texts)) := first.opens.intercalate _ _
      have long := opens.length_pos
      simp only [bracketed, List.length_cons, List.length_append, List.length_nil] at enough
      obtain ⟨fuel, rfl⟩ : ∃ k, fuel = k + 1 := ⟨fuel - 1, by omega⟩
      exact readValue_array ((skipBlanks_append lead).trans (opens.skipBlanks _)) (opens.append _)
        (readItems_spelled gap last (.cons first others) (List.cons_ne_nil _ _) rest (by omega))

theorem spells_object (lead : Blank before) (gap : Blank between) (last : Blank after)
    {texts : List (List Char)} {ms : List (String × Json)}
    (all : List.Forall₂ SpellsMember texts ms) :
    Spells (bracketed '\x7b' '\x7d' before between after texts) (.object ms) where
  opens := ⟨'\x7b', _, rfl, by decide⟩
  read rest _ fuel enough := by
    rw [bracketed_append, Draft.ofJson_object]
    cases all with
    | nil => exact readValue_noMembers ((skipBlanks_append lead).trans (skipBlanks_append last))
    | @cons text m texts ms first others =>
      have opens : Opens ((',' :: between).intercalate (text :: texts)) := first.opens.intercalate _ _
      have long := opens.length_pos
      simp only [bracketed, List.length_cons, List.length_append, List.length_nil] at enough
      obtain ⟨fuel, rfl⟩ : ∃ k, fuel = k + 1 := ⟨fuel - 1, by omega⟩
      exact readValue_object ((skipBlanks_append lead).trans (opens.skipBlanks _)) (opens.append _)
        (readMembers_spelled gap last (.cons first others) (List.cons_ne_nil _ _) rest (by omega))

/-- **What spells a document is read as that document.** -/
theorem ofText_of_spells {text : String} {j : Json} (h : Spells text.toList j) :
    Draft.ofText text = (.ofJson j, true) := by
  have read := h.read [] ends_nil (2 * text.toList.length + 1) (by omega)
  rw [List.append_nil] at read
  simp only [Draft.ofText, read]
  rfl

end Json

/-! ## Both printers -/

mutual

/-- A document whose numbers are whole and fit 64 bits. -/
def Json.Exact : Json → Prop
  | .null | .bool _ | .string _ => True
  | .number (.integer z) => -0x8000000000000000 ≤ z ∧ z < 0x10000000000000000
  | .number (.real _) => False
  | .array js => Json.ItemsExact js
  | .object ms => Json.MembersExact ms

/-- Items of which each is exact. -/
def Json.ItemsExact : List Json → Prop
  | [] => True
  | j :: js => Json.Exact j ∧ Json.ItemsExact js

/-- Members of which each is exact. -/
def Json.MembersExact : List (String × Json) → Prop
  | [] => True
  | (_, j) :: ms => Json.Exact j ∧ Json.MembersExact ms

end

namespace Json

theorem toList_bracketed (opening closing : Char) (parts : List String) :
    (String.singleton opening ++ ",".intercalate parts ++ String.singleton closing).toList =
      bracketed opening closing [] [] [] (parts.map String.toList) := by
  simp [bracketed, String.toList_intercalate]

mutual

/-- **A document on one line spells that document.** -/
theorem spells_print : ∀ j : Json, j.Exact → Spells (print j).toList j
  | .null, _ => spells_null
  | .bool b, _ => by
    rw [print]
    exact spells_bool b
  | .number (.integer z), fits => spells_integer fits.1 fits.2
  | .string s, _ => spells_string s
  | .array js, exact => by
    have text : (print (.array js)).toList = bracketed '[' ']' [] [] [] ((printItems js).map String.toList) :=
      toList_bracketed '[' ']' _
    rw [text]
    exact spells_array blank_nil blank_nil blank_nil (spells_printItems js exact)
  | .object ms, exact => by
    have text : (print (.object ms)).toList =
        bracketed '\x7b' '\x7d' [] [] [] ((printMembers ms).map String.toList) :=
      toList_bracketed '\x7b' '\x7d' _
    rw [text]
    exact spells_object blank_nil blank_nil blank_nil (spells_printMembers ms exact)

theorem spells_printItems : ∀ js : List Json, ItemsExact js →
    List.Forall₂ Spells ((printItems js).map String.toList) js
  | [], _ => .nil
  | j :: js, exact => .cons (spells_print j exact.1) (spells_printItems js exact.2)

theorem spells_printMembers : ∀ ms : List (String × Json), MembersExact ms →
    List.Forall₂ SpellsMember ((printMembers ms).map String.toList) ms
  | [], _ => .nil
  | (k, j) :: ms, exact =>
    .cons ⟨[], (print j).toList, by simp, blank_nil, spells_print j exact.1⟩
      (spells_printMembers ms exact.2)

end

/-- Parts that are printed on lines of their own stand between brackets, with blanks. -/
theorem toList_printBlock (opening closing : Char) (indent : Nat) (parts : List String) :
    ∃ before between after, Blank before ∧ Blank between ∧ Blank after ∧
      (printBlock (String.singleton opening) (String.singleton closing) indent parts).toList =
        bracketed opening closing before between after (parts.map String.toList) := by
  have line (depth : Nat) : Blank ('\n' :: List.replicate (2 * depth) ' ') := by
    intro c h
    rcases List.mem_cons.1 h with rfl | h
    · decide
    · obtain rfl := List.eq_of_mem_replicate h
      decide
  cases parts with
  | nil => exact ⟨[], [], [], blank_nil, blank_nil, blank_nil, by simp [printBlock, bracketed]⟩
  | cons part parts =>
    exact ⟨_, _, _, line (indent + 1), line (indent + 1), line indent,
      by simp [printBlock, bracketed, String.toList_intercalate]⟩

mutual

/-- **A document over several lines spells that document.** -/
theorem spells_printIndented (indent : Nat) :
    ∀ j : Json, j.Exact → Spells (printIndented indent j).toList j
  | .null, _ => spells_null
  | .bool b, _ => by
    rw [printIndented]
    exact spells_bool b
  | .number (.integer z), fits => spells_integer fits.1 fits.2
  | .string s, _ => spells_string s
  | .array js, exact => by
    obtain ⟨before, between, after, lead, gap, last, text⟩ :=
      toList_printBlock '[' ']' indent (printIndentedItems (indent + 1) js)
    have shown : (printIndented indent (.array js)).toList = _ := text
    rw [shown]
    exact spells_array lead gap last (spells_printIndentedItems (indent + 1) js exact)
  | .object ms, exact => by
    obtain ⟨before, between, after, lead, gap, last, text⟩ :=
      toList_printBlock '\x7b' '\x7d' indent (printIndentedMembers (indent + 1) ms)
    have shown : (printIndented indent (.object ms)).toList = _ := text
    rw [shown]
    exact spells_object lead gap last (spells_printIndentedMembers (indent + 1) ms exact)

theorem spells_printIndentedItems (indent : Nat) : ∀ js : List Json, ItemsExact js →
    List.Forall₂ Spells ((printIndentedItems indent js).map String.toList) js
  | [], _ => .nil
  | j :: js, exact =>
    .cons (spells_printIndented indent j exact.1) (spells_printIndentedItems indent js exact.2)

theorem spells_printIndentedMembers (indent : Nat) : ∀ ms : List (String × Json), MembersExact ms →
    List.Forall₂ SpellsMember ((printIndentedMembers indent ms).map String.toList) ms
  | [], _ => .nil
  | (k, j) :: ms, exact =>
    .cons ⟨[' '], (printIndented indent j).toList, by simp, blank_space,
      spells_printIndented indent j exact.1⟩ (spells_printIndentedMembers indent ms exact.2)

end

/-- The texts that are printed of a document. -/
def Printed (j : Json) (text : String) : Prop := text = print j ∨ text = printLines j

/-- **What is printed is read back.** -/
theorem ofText_printed {j : Json} (exact : j.Exact) {text : String} (printed : Printed j text) :
    Draft.ofText text = (.ofJson j, true) := by
  rcases printed with rfl | rfl
  · exact ofText_of_spells (spells_print j exact)
  · exact ofText_of_spells (spells_printIndented 0 j exact)

end Json

end MapBallot
