import LoraConcentrator.Json.Record
import LoraConcentrator.Settings.Printer
import Mathlib.Tactic.SplitIfs

/-!
# Reading written values

What a reader makes of a written value does not depend on what follows it, as long as that is a
comma, a closing bracket or the end of the text. The relation `Reads` says this of a value that is
read and of a problem alike, so that the outcome of a list or a record is put together from those of
its parts.
-/

namespace LoraConcentrator.Json.Reader

variable {α β : Type} {r : Reader α} {f : α → Reader β} {s s' cs rest : List Char} {a : α}
  {problem : Problem}

/-! ### Sequences -/

/-- After a reader that succeeded the next one goes on where it stopped. -/
theorem bind_of_ok (h : r.run s = .ok a s') : (r >>= f).run s = (f a).run s' := by
  rw [EStateM.run_bind, h]

theorem bind_of_error (h : r.run s = .error problem s') :
    (r >>= f).run s = .error problem s' := by
  rw [EStateM.run_bind, h]

theorem map_of_ok (g : α → β) (h : r.run s = .ok a s') : (g <$> r).run s = .ok (g a) s' := by
  rw [map_eq_pure_bind, bind_of_ok h]
  rfl

theorem map_of_error (g : α → β) (h : r.run s = .error problem s') :
    (g <$> r).run s = .error problem s' := by
  rw [map_eq_pure_bind, bind_of_error h]

/-! ### What follows a value -/

/-- The text ends, or a comma or a closing bracket is next. -/
def Delimited (rest : List Char) : Prop :=
  ∀ c ∈ rest.head?, c = ',' ∨ c = ']' ∨ c = '\x7d'

/-- A reader ended with an outcome; after a value it left the rest of the text. -/
def Ends (result : EStateM.Result Problem (List Char) α) (rest : List Char) :
    Except Problem α → Prop
  | .ok a => result = .ok a rest
  | .error problem => ∃ left, result = .error problem left

theorem Ends.map {outcome : Except Problem α} (h : Ends (r.run s) rest outcome) (g : α → β) :
    Ends ((g <$> r).run s) rest (g <$> outcome) := by
  cases outcome with
  | ok a => exact map_of_ok g h
  | error problem =>
    obtain ⟨left, hleft⟩ := h
    exact ⟨left, map_of_error g hleft⟩

/-- A reader makes the outcome of exactly these characters, wherever a comma, a closing bracket or
the end follows. -/
def Reads (r : Reader α) (cs : List Char) (outcome : Except Problem α) : Prop :=
  ∀ rest, Delimited rest → Ends (r.run (cs ++ rest)) rest outcome

/-- What is made of a value is read where the value is. -/
theorem Reads.map {outcome : Except Problem α} (h : Reads r cs outcome) (g : α → β) :
    Reads (g <$> r) cs (g <$> outcome) :=
  fun rest hrest ↦ (h rest hrest).map g

/-- A whole text is read to its end. -/
theorem Reads.ofText {text : String} {outcome : Except Problem α}
    (h : Reads r text.toList outcome) : r.ofText text = outcome := by
  have hends := h [] (by simp [Delimited])
  rw [List.append_nil] at hends
  unfold Reader.ofText
  cases outcome with
  | ok a =>
    rw [show r text.toList = .ok a [] from hends]
    rfl
  | error problem =>
    obtain ⟨left, hleft⟩ := hends
    rw [show r text.toList = .error problem left from hleft]

/-! ### Characters -/

/-- Blanks are dropped up to the first character that is none. -/
theorem dropWhile_isBlank {c : Char} (hc : isBlank c = false) (cs : List Char) :
    (c :: cs).dropWhile isBlank = c :: cs := by
  rw [List.dropWhile_cons, if_neg (by simp [hc])]

theorem run_get (s : List Char) : (get : Reader (List Char)).run s = .ok s s := rfl

theorem run_next? (s : List Char) : next?.run s = .ok s.head? s := rfl

/-- A character that is no blank is seen and left. -/
theorem run_peek_cons {c : Char} (hc : isBlank c = false) (cs : List Char) :
    peek.run (c :: cs) = .ok (some c) (c :: cs) := by
  change EStateM.Result.ok ((c :: cs).dropWhile isBlank).head? ((c :: cs).dropWhile isBlank) = _
  rw [dropWhile_isBlank hc, List.head?_cons]

theorem run_advance_cons (c : Char) (cs : List Char) : advance.run (c :: cs) = .ok () cs := rfl

/-- A word is read where it stands. -/
theorem run_word_append (w rest : List Char) : (word w).run (w ++ rest) = .ok () rest := by
  induction w with
  | nil => rfl
  | cons c w ih =>
    rw [word, List.cons_append, bind_of_ok (run_next? _), List.head?_cons]
    dsimp only
    rw [if_neg (by simp), bind_of_ok (run_advance_cons ..)]
    exact ih

/-! ### Booleans -/

/-- A truth value is read back. -/
theorem reads_boolean (b : Bool) : Reads boolean (writtenBool b).toList (.ok b) := by
  intro rest _
  cases b with
  | true =>
    have htext : (writtenBool true).toList ++ rest = 't' :: ("rue".toList ++ rest) := rfl
    rw [boolean, htext, bind_of_ok (run_peek_cons (by decide) _)]
    exact bind_of_ok (run_word_append "true".toList rest)
  | false =>
    have htext : (writtenBool false).toList ++ rest = 'f' :: ("alse".toList ++ rest) := rfl
    rw [boolean, htext, bind_of_ok (run_peek_cons (by decide) _)]
    exact bind_of_ok (run_word_append "false".toList rest)

/-! ### Strings -/

/-- Four hexadecimal digits of a control character are read as its number. -/
theorem hexUnit_digits {n : Nat} (hn : n < 32) (rest : List Char) :
    hexUnit (Hex.digits .small 4 n ++ rest) = .ok (n, rest) := by
  have hdigits : Hex.digits .small 4 n =
      ['0', '0', Hex.Alphabet.small.digit (n / 16), Hex.Alphabet.small.digit (n % 16)] := by
    revert n
    decide
  have hhigh : Hex.value? (Hex.Alphabet.small.digit (n / 16)) = some (n / 16) := by
    revert n
    decide
  have hlow : Hex.value? (Hex.Alphabet.small.digit (n % 16)) = some (n % 16) := by
    revert n
    decide
  have hzero : Hex.value? '0' = some 0 := by decide
  have hsize : ¬(0 + '0'.utf8Size + '0'.utf8Size +
      (Hex.Alphabet.small.digit (n / 16)).utf8Size +
      (Hex.Alphabet.small.digit (n % 16)).utf8Size < 4) := by
    have := Char.utf8Size_pos (Hex.Alphabet.small.digit (n / 16))
    have := Char.utf8Size_pos (Hex.Alphabet.small.digit (n % 16))
    have : '0'.utf8Size = 1 := by decide
    omega
  have hvalue : ((0 * 16 + 0) * 16 + n / 16) * 16 + n % 16 = n := by omega
  rw [hdigits]
  unfold hexUnit
  rw [if_neg (by exact hsize)]
  simp only [List.cons_append, List.nil_append]
  rw [hzero, hhigh, hlow]
  dsimp only
  rw [hvalue]

/-- A character that needs no escape is read as itself. -/
theorem stringBody_plain {c : Char} (hquote : c ≠ '"') (hbackslash : c ≠ '\\') (hcontrol : ¬c < ' ')
    (tail : List Char) : stringBody true (c :: tail) =
      (stringBody true tail).map fun (ds, rest) ↦ (c :: ds, rest) := by
  rw [stringBody, if_neg hquote, if_neg hbackslash, if_neg hcontrol]
  cases stringBody true tail <;> rfl

/-- An escape is read as the character it stands for. -/
theorem stringBody_escape {c : Char} {cs tail : List Char} (h : escaped true cs = .ok (c, tail)) :
    stringBody true ('\\' :: cs) =
      (stringBody true tail).map fun (ds, rest) ↦ (c :: ds, rest) := by
  rw [stringBody, if_neg (by decide), if_pos rfl]
  split
  next d rest he =>
    rw [h, Except.ok.injEq, Prod.mk.injEq] at he
    obtain ⟨rfl, rfl⟩ := he
    cases stringBody true tail <;> rfl
  next problem he =>
    rw [h] at he
    cases he

/-- A control character is read from its number. -/
theorem escaped_control {c : Char} (hc : c < ' ') (tail : List Char) :
    escaped true ('u' :: Hex.digits .small 4 c.toNat ++ tail) = .ok (c, tail) := by
  have hlt : c.toNat < 32 := hc
  have hhalf : ¬isHigh c.toNat ∧ ¬isLow c.toNat := by
    simp only [isHigh, isLow, Bool.and_eq_true, decide_eq_true_iff]
    omega
  rw [List.cons_append, escaped, if_pos rfl, hexUnit_digits hlt]
  dsimp only
  rw [unitEscape, if_pos hhalf, Char.ofNat_toNat]

/-- A written character is read as itself. -/
theorem stringBody_writtenChar (c : Char) (tail : List Char) :
    stringBody true ((writtenChar c).toList ++ tail) =
      (stringBody true tail).map fun (ds, rest) ↦ (c :: ds, rest) := by
  unfold writtenChar
  split_ifs with h₁ h₂ h₃ h₄ h₅ h₆ h₇ h₈
  · subst h₁
    exact stringBody_escape rfl
  · subst h₂
    exact stringBody_escape rfl
  · subst h₃
    exact stringBody_escape rfl
  · subst h₄
    exact stringBody_escape rfl
  · subst h₅
    exact stringBody_escape rfl
  · subst h₆
    exact stringBody_escape rfl
  · subst h₇
    exact stringBody_escape rfl
  · have htext : ("\\u" ++ Hex.fixed .small 4 c.toNat).toList =
        '\\' :: 'u' :: Hex.digits .small 4 c.toNat := by
      simp only [Hex.fixed, String.toList_append, String.toList_ofList]
      rfl
    rw [htext]
    exact stringBody_escape (escaped_control h₈ tail)
  · have htext : c.toString.toList = [c] := by
      rw [Char.toString_eq_singleton, String.toList_singleton]
    rw [htext]
    exact stringBody_plain h₁ h₂ h₈ tail

/-- A written string is read to its closing quotation mark. -/
theorem stringBody_written (cs rest : List Char) :
    stringBody true (cs.flatMap (fun c ↦ (writtenChar c).toList) ++ '"' :: rest) =
      .ok (cs, rest) := by
  induction cs with
  | nil =>
    rw [List.flatMap_nil, List.nil_append, stringBody]
    rfl
  | cons c cs ih =>
    rw [List.flatMap_cons, List.append_assoc, stringBody_writtenChar, ih]
    rfl

/-- A string is written between quotes, character by character. -/
theorem toList_writtenString (s : String) :
    (writtenString s).toList =
      '"' :: (s.toList.flatMap (fun c ↦ (writtenChar c).toList) ++ ['"']) := by
  simp only [writtenString, String.toList_append, String.toList_join, List.flatMap_map]
  rfl

/-- A string after its opening quotation mark was seen. -/
theorem run_string_written (s : String) (rest : List Char) :
    (string true).run ((writtenString s).toList ++ rest) = .ok s rest := by
  rw [string, toList_writtenString, List.cons_append, bind_of_ok (run_advance_cons ..),
    bind_of_ok (run_get _), List.append_assoc, List.singleton_append, stringBody_written]
  change (EStateM.Result.ok (String.ofList s.toList) rest : EStateM.Result ..) = .ok s rest
  rw [String.ofList_toList]

/-- A string is read back, whatever characters it holds. -/
theorem reads_text (s : String) : Reads text (writtenString s).toList (.ok s) := by
  intro rest _
  have hpeek : peek.run ((writtenString s).toList ++ rest) =
      .ok (some '"') ((writtenString s).toList ++ rest) := by
    rw [toList_writtenString]
    exact run_peek_cons (by decide) _
  rw [text, bind_of_ok hpeek, if_pos rfl]
  exact run_string_written s rest

end LoraConcentrator.Json.Reader
