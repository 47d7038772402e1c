import LoraConcentrator.Proofs.Json.Reading
import Mathlib.Data.List.Forall2

/-!
# Reading written lists and records

A written list or record is read back item by item. The text before an item is a comma, but for the
first item, and every turn of the reader takes one item off the text, so the turns suffice. The
outcome is that of the items in their order: the first one that is refused stops the reading.
-/

namespace LoraConcentrator.Json

variable {α β : Type} {isFirst : Bool} {c : Char} {cs rest : List Char} {ts : List (List Char)}

/-! ### Items between commas -/

/-- The text of an item and the comma before it. -/
def separatedItem (isFirst : Bool) (cs : List Char) : List Char := if isFirst then cs else ',' :: cs

/-- The texts of items with commas between them; the first item has one before it unless it is the
first of all. -/
def separated : (isFirst : Bool) → List (List Char) → List Char
  | _, [] => []
  | isFirst, cs :: ts => separatedItem isFirst cs ++ separated false ts

/-- Items with commas between them are separated items. -/
theorem intercalate_eq_separated (ts : List (List Char)) :
    [','].intercalate ts = separated true ts := by
  have hlater : ∀ cs ts, [','].intercalate (cs :: ts) = cs ++ separated false ts := by
    intro cs ts
    induction ts generalizing cs with
    | nil => simp [separated]
    | cons ds ts ih =>
      rw [List.intercalate_cons_cons, ih]
      simp [separated, separatedItem]
  cases ts with
  | nil => rfl
  | cons cs ts => exact hlater cs ts

/-- There are at least as many characters as items. -/
theorem length_le_separated (isFirst : Bool) (h : ∀ cs ∈ ts, cs ≠ []) :
    ts.length ≤ (separated isFirst ts).length := by
  induction ts generalizing isFirst with
  | nil => exact Nat.zero_le _
  | cons cs ts ih =>
    have hitem : 0 < (separatedItem isFirst cs).length := by
      have := List.length_pos_iff.2 (h cs List.mem_cons_self)
      unfold separatedItem
      split_ifs <;> simp [this]
    have := ih false fun ds hds ↦ h ds (List.mem_cons_of_mem _ hds)
    rw [separated, List.length_append, List.length_cons]
    omega

/-- A list is written between brackets, with commas between its items. -/
theorem toList_writtenList (items : List String) :
    (writtenList items).toList = '[' :: (separated true (items.map String.toList) ++ [']']) := by
  simp only [writtenList, String.toList_append, String.toList_intercalate]
  rw [← intercalate_eq_separated]
  rfl

/-- The text of a member of an object. -/
def memberChars (name text : String) : List Char :=
  (writtenString name).toList ++ ':' :: text.toList

/-- A record is written between braces, with commas between its members. -/
theorem toList_writtenRecord (members : List (String × String)) :
    (writtenRecord members).toList =
      '\x7b' :: (separated true (members.map fun m ↦ memberChars m.1 m.2) ++ ['\x7d']) := by
  simp only [writtenRecord, String.toList_append, String.toList_intercalate]
  rw [← intercalate_eq_separated, List.map_map]
  simp only [Function.comp_def, String.toList_append, List.append_assoc]
  rfl

namespace Reader

variable {σ : Type} {r : Reader α} {turn : σ → Reader (σ ⊕ α)} {s : σ} {turns : Nat}

/-- What follows an item is a comma or the closing bracket. -/
theorem delimited_separated (ts : List (List Char)) (hc : c = ']' ∨ c = '\x7d') :
    Delimited (separated false ts ++ c :: rest) := by
  cases ts with
  | nil =>
    rintro d ⟨⟩
    exact .inr hc
  | cons cs ts =>
    rintro d ⟨⟩
    exact .inl rfl

/-! ### Turns -/

/-- A turn that gives no result is followed by the next one. -/
theorem ends_iterate_inl {s' : σ} {outcome : Except Problem α}
    (hturn : (turn s).run cs = .ok (.inl s') rest) {rest' : List Char}
    (h : Ends ((iterate turn turns s').run rest) rest' outcome) :
    Ends ((iterate turn (turns + 1) s).run cs) rest' outcome := by
  rw [iterate, bind_of_ok hturn]
  exact h

/-- A turn that gives the value is the last one. -/
theorem run_iterate_inr {a : α} (hturn : (turn s).run cs = .ok (.inr a) rest) :
    (iterate turn (turns + 1) s).run cs = .ok a rest := by
  rw [iterate, bind_of_ok hturn]
  rfl

theorem run_iterate_error {problem : Problem} (hturn : (turn s).run cs = .error problem rest) :
    (iterate turn (turns + 1) s).run cs = .error problem rest := by
  rw [iterate, bind_of_error hturn]

/-- A loop may take a turn for each character and one more. -/
theorem run_loop (turn : σ → Reader (σ ⊕ α)) (s : σ) (cs : List Char) :
    (loop turn s).run cs = (iterate turn (cs.length + 1) s).run cs := by
  rw [loop, bind_of_ok (run_get cs)]

/-! ### Lists -/

/-- The text of an item starts with a character that neither is blank nor closes the list. -/
def StartsItem (cs : List Char) : Prop :=
  ∃ c ds, cs = c :: ds ∧ isBlank c = false ∧ c ≠ ']'

theorem StartsItem.ne_nil (h : StartsItem cs) : cs ≠ [] := by
  obtain ⟨c, ds, rfl, -, -⟩ := h
  exact List.cons_ne_nil c ds

/-- The comma before an item is passed, where there must be one. -/
theorem run_nextItem (isFirst : Bool) (h : StartsItem cs) (rest : List Char) :
    (nextItem isFirst).run (separatedItem isFirst cs ++ rest) = .ok true (cs ++ rest) := by
  obtain ⟨c, ds, rfl, hblank, hc⟩ := h
  have hpeek := run_peek_cons hblank (ds ++ rest)
  cases isFirst with
  | true =>
    rw [nextItem, separatedItem, if_pos rfl, List.cons_append, bind_of_ok hpeek]
    dsimp only
    rw [if_neg hc, if_pos rfl]
    rfl
  | false =>
    rw [nextItem, separatedItem, if_neg (by decide), List.cons_append, List.cons_append,
      bind_of_ok (run_peek_cons (by decide) _)]
    dsimp only
    rw [if_neg (by decide), if_neg (by decide), if_neg (by simp), bind_of_ok (run_advance_cons ..),
      bind_of_ok hpeek]
    dsimp only
    rw [if_neg hc]
    rfl

/-- A list is over at its closing bracket. -/
theorem run_nextItem_close (isFirst : Bool) (rest : List Char) :
    (nextItem isFirst).run (']' :: rest) = .ok false (']' :: rest) := by
  rw [nextItem, bind_of_ok (run_peek_cons (by decide) _)]
  rfl

/-- The items of a list that is over are given in order. -/
theorem run_listTurn_close (items : List α) (rest : List Char) :
    (listTurn r items).run (']' :: rest) = .ok (.inr items.reverse) rest := by
  rw [listTurn, bind_of_ok (run_nextItem_close ..)]
  rfl

/-- A turn at an item reads it. -/
theorem run_listTurn (h : StartsItem cs) (items : List α) (rest : List Char) :
    (listTurn r items).run (separatedItem items.isEmpty cs ++ rest) =
      (r >>= fun a ↦ pure (.inl (a :: items))).run (cs ++ rest) := by
  rw [listTurn, bind_of_ok (run_nextItem items.isEmpty h rest), if_pos rfl]

/-- An item goes before the items after it, whether or not these are refused. -/
theorem reverse_append_cons (items : List α) (a : α) (outcome : Except Problem (List α)) :
    (items.reverse ++ ·) <$> (do return a :: (← outcome)) =
      ((a :: items).reverse ++ ·) <$> outcome := by
  rw [List.reverse_cons]
  cases outcome with
  | error problem => rfl
  | ok as => exact congrArg Except.ok (List.append_cons ..)

/-- The turns of a list take its items one after the other. -/
theorem ends_iterate_listTurn {text : β → List Char} {f : β → Except Problem α} (xs : List β)
    (h : ∀ x ∈ xs, Reads r (text x) (f x) ∧ StartsItem (text x)) (items : List α)
    (hturns : xs.length < turns) :
    Ends ((iterate (listTurn r) turns items).run
      (separated items.isEmpty (xs.map text) ++ ']' :: rest)) rest
      ((items.reverse ++ ·) <$> xs.mapM f) := by
  induction xs generalizing items turns with
  | nil =>
    obtain ⟨turns, rfl⟩ := Nat.exists_eq_add_of_lt hturns
    rw [List.mapM_nil]
    change _ = EStateM.Result.ok (items.reverse ++ []) rest
    rw [List.append_nil]
    exact run_iterate_inr (run_listTurn_close items rest)
  | cons x xs ih =>
    obtain ⟨turns, rfl⟩ := Nat.exists_eq_add_of_lt hturns
    obtain ⟨hreads, hstart⟩ := h x List.mem_cons_self
    have hitem := hreads (separated false (xs.map text) ++ ']' :: rest)
      (delimited_separated _ (.inl rfl))
    have hturn := run_listTurn (r := r) hstart items (separated false (xs.map text) ++ ']' :: rest)
    rw [List.map_cons, separated, List.append_assoc, List.mapM_cons]
    cases hx : f x with
    | error problem =>
      rw [hx] at hitem
      obtain ⟨left, hleft⟩ := hitem
      exact ⟨left, run_iterate_error (hturn.trans (bind_of_error hleft))⟩
    | ok a =>
      rw [hx] at hitem
      refine ends_iterate_inl (hturn.trans (bind_of_ok hitem)) ?_
      change Ends _ rest ((items.reverse ++ ·) <$> (do return a :: (← xs.mapM f)))
      rw [reverse_append_cons]
      refine ih (fun y hy ↦ h y (List.mem_cons_of_mem _ hy)) (a :: items) ?_
      rw [List.length_cons]
      omega

/-- **A written list is read item by item.** -/
theorem reads_list {text : β → String} {f : β → Except Problem α} (xs : List β)
    (h : ∀ x ∈ xs, Reads r (text x).toList (f x) ∧ StartsItem (text x).toList) :
    Reads (list r) (writtenList (xs.map text)).toList (xs.mapM f) := by
  intro rest _
  have hlength : xs.length ≤ (separated true (xs.map fun x ↦ (text x).toList)).length := by
    rw [← List.length_map fun x ↦ (text x).toList]
    refine length_le_separated true fun cs hcs ↦ ?_
    obtain ⟨x, hx, rfl⟩ := List.mem_map.1 hcs
    exact (h x hx).2.ne_nil
  rw [toList_writtenList, List.map_map, List.cons_append, List.append_assoc, List.singleton_append,
    list, bind_of_ok (run_peek_cons (by decide) _), if_pos rfl, bind_of_ok (run_advance_cons ..),
    run_loop]
  have houtcome : (([] : List α).reverse ++ ·) <$> xs.mapM f = xs.mapM f := id_map _
  rw [← houtcome]
  refine ends_iterate_listTurn xs h [] ?_
  rw [List.length_append]
  change xs.length < (separated true (xs.map fun x ↦ (text x).toList)).length + _ + 1
  omega

end Reader

/-! ### Records -/

/-- The text of a field and what it is read as. -/
structure FieldText (α : Type) where
  text : String
  put : Except Problem (α → α)

namespace FieldText

/-- Puts the value of a field into a record. -/
def apply (a : α) (written : FieldText α) : Except Problem α := (· a) <$> written.put

/-- The texts are read by the fields, one by one. -/
abbrev ReadBy (fields : List (Field α)) (written : List (FieldText α)) : Prop :=
  List.Forall₂ (fun field w ↦ Reader.Reads field.read w.text.toList w.put) fields written

/-- The characters of the members of an object. -/
def members (fields : List (Field α)) (written : List (FieldText α)) : List (List Char) :=
  List.zipWith (fun field w ↦ memberChars field.name w.text) fields written

end FieldText

namespace Record

open Reader

variable {record : Record α} {fields : List (Field α)} {written : List (FieldText α)} {turns : Nat}

/-- The name of a member is read, after its comma where there must be one. -/
theorem run_nextKey (isFirst : Bool) (name text : String) (rest : List Char) :
    (nextKey isFirst).run (separatedItem isFirst (memberChars name text) ++ rest) =
      .ok (some name) (':' :: (text.toList ++ rest)) := by
  have hkey : (some <$> string true).run
      ((writtenString name).toList ++ ':' :: (text.toList ++ rest)) =
      .ok (some name) (':' :: (text.toList ++ rest)) :=
    map_of_ok some (run_string_written name _)
  obtain ⟨ds, hds⟩ : ∃ ds, (writtenString name).toList = '"' :: ds := ⟨_, toList_writtenString name⟩
  rw [hds, List.cons_append] at hkey
  have hpeek := run_peek_cons (c := '"') (by decide) (ds ++ ':' :: (text.toList ++ rest))
  have hchars : memberChars name text ++ rest = '"' :: (ds ++ ':' :: (text.toList ++ rest)) := by
    rw [memberChars, hds, List.append_assoc]
    rfl
  cases isFirst with
  | true =>
    rw [separatedItem, if_pos rfl, hchars, nextKey, bind_of_ok hpeek]
    dsimp only
    rw [if_neg (by decide), if_neg (by decide), bind_of_ok hpeek]
    exact hkey
  | false =>
    rw [separatedItem, if_neg (by decide), List.cons_append, hchars, nextKey,
      bind_of_ok (run_peek_cons (by decide) _)]
    dsimp only
    rw [if_neg (by decide), if_pos (by decide), if_neg (by simp), bind_of_ok (run_advance_cons ..),
      bind_of_ok hpeek]
    exact hkey

theorem run_nextKey_close (isFirst : Bool) (rest : List Char) :
    (nextKey isFirst).run ('\x7d' :: rest) = .ok none rest := by
  rw [nextKey, bind_of_ok (run_peek_cons (by decide) _)]
  rfl

theorem run_colon (rest : List Char) : colon.run (':' :: rest) = .ok () rest := by
  rw [colon, bind_of_ok (run_peek_cons (by decide) _)]
  rfl

/-- A field is found by its name. -/
theorem find?_field (hnodup : (record.fields.map (·.name)).Nodup) {field : Field α}
    (hmem : field ∈ record.fields) :
    record.fields.find? (·.name == field.name) = some field := by
  obtain ⟨before, after, hfields⟩ := List.append_of_mem hmem
  rw [hfields, List.map_append, List.nodup_append] at hnodup
  refine List.find?_eq_some_iff_append.2 ⟨beq_self_eq_true _, before, after, hfields, ?_⟩
  intro other hother
  have hne := hnodup.2.2 other.name (List.mem_map_of_mem hother) field.name List.mem_cons_self
  simpa using hne

/-- The fields are those whose names were not read yet, each of them once. -/
structure Remaining (record : Record α) (seen : List String) (fields : List (Field α)) : Prop where
  mem : ∀ field ∈ fields, field ∈ record.fields
  unseen : ∀ field ∈ fields, field.name ∉ seen
  distinct : (fields.map (·.name)).Nodup
  covers : ∀ field ∈ record.fields, field.name ∈ seen ∨ field.name ∈ fields.map (·.name)

namespace Remaining

variable {seen : List String} {field : Field α}

/-- Before the first member all fields remain. -/
theorem initial (hnodup : (record.fields.map (·.name)).Nodup) :
    Remaining record [] record.fields where
  mem _ hfield := hfield
  unseen _ _ := List.not_mem_nil
  distinct := hnodup
  covers _ hfield := .inr (List.mem_map_of_mem hfield)

/-- Reading a field leaves those after it. -/
theorem tail (h : Remaining record seen (field :: fields)) :
    Remaining record (field.name :: seen) fields where
  mem other hother := h.mem other (List.mem_cons_of_mem _ hother)
  unseen other hother := by
    have hfresh := (List.nodup_cons.1 h.distinct).1
    rw [List.mem_cons, not_or]
    refine ⟨fun hname ↦ hfresh (List.mem_map.2 ⟨other, hother, hname⟩), ?_⟩
    exact h.unseen other (List.mem_cons_of_mem _ hother)
  distinct := (List.nodup_cons.1 h.distinct).2
  covers other hother := by
    rcases h.covers other hother with hseen | hlater
    · exact .inl (List.mem_cons_of_mem _ hseen)
    · rw [List.map_cons, List.mem_cons] at hlater
      exact hlater.imp_left fun hname ↦ List.mem_cons.2 (.inl hname)

/-- When no field remains, none is lacking. -/
theorem lacking?_eq_none (h : Remaining record seen []) : record.lacking? seen = none := by
  rw [lacking?, Option.map_eq_none_iff, List.find?_eq_none]
  intro field hfield
  have := (h.covers field hfield).resolve_right List.not_mem_nil
  simp [this]

end Remaining

/-- A record that lacks nothing is given when it is over. -/
theorem run_memberTurn_close {draft : Draft α} (h : Remaining record draft.seen [])
    (rest : List Char) :
    (record.memberTurn draft).run ('\x7d' :: rest) = .ok (.inr draft.value) rest := by
  rw [memberTurn, bind_of_ok (run_nextKey_close ..)]
  dsimp only
  rw [h.lacking?_eq_none]
  rfl

/-- A turn at a member reads its value as that of the field it names. -/
theorem run_memberTurn (hnodup : (record.fields.map (·.name)).Nodup) {field : Field α}
    {draft : Draft α} (h : Remaining record draft.seen (field :: fields)) (text : String)
    (rest : List Char) :
    (record.memberTurn draft).run
        (separatedItem draft.isFirst (memberChars field.name text) ++ rest) =
      (field.read >>= fun put ↦ pure (.inl ⟨false, field.name :: draft.seen,
        put draft.value⟩)).run (text.toList ++ rest) := by
  have hmem := h.mem field List.mem_cons_self
  have hunseen := h.unseen field List.mem_cons_self
  rw [memberTurn, bind_of_ok (run_nextKey ..)]
  dsimp only
  rw [find?_field hnodup hmem]
  dsimp only
  rw [if_neg (by simpa using hunseen), bind_of_ok (run_colon _)]

/-- The turns of a record take its members one after the other. -/
theorem ends_iterate_memberTurn (hnodup : (record.fields.map (·.name)).Nodup)
    (hwritten : FieldText.ReadBy fields written) (draft : Draft α)
    (hfields : Remaining record draft.seen fields) (hturns : fields.length < turns) :
    Ends ((iterate record.memberTurn turns draft).run
      (separated draft.isFirst (FieldText.members fields written) ++ '\x7d' :: rest)) rest
      (written.foldlM FieldText.apply draft.value) := by
  induction hwritten generalizing draft turns with
  | nil =>
    obtain ⟨turns, rfl⟩ := Nat.exists_eq_add_of_lt hturns
    exact run_iterate_inr (run_memberTurn_close hfields rest)
  | @cons field w fields written hreads _ ih =>
    obtain ⟨turns, rfl⟩ := Nat.exists_eq_add_of_lt hturns
    have hvalue := hreads (separated false (FieldText.members fields written) ++ '\x7d' :: rest)
      (delimited_separated _ (.inr rfl))
    have hturn := run_memberTurn hnodup hfields w.text
      (separated false (FieldText.members fields written) ++ '\x7d' :: rest)
    have htext : separated draft.isFirst (FieldText.members (field :: fields) (w :: written)) =
        separatedItem draft.isFirst (memberChars field.name w.text) ++
          separated false (FieldText.members fields written) := rfl
    rw [htext, List.append_assoc, List.foldlM_cons, FieldText.apply]
    cases hput : w.put with
    | error problem =>
      rw [hput] at hvalue
      obtain ⟨left, hvalue⟩ := hvalue
      exact ⟨left, run_iterate_error (hturn.trans (bind_of_error hvalue))⟩
    | ok put =>
      rw [hput] at hvalue
      refine ends_iterate_inl (hturn.trans (bind_of_ok hvalue)) ?_
      refine ih ⟨false, field.name :: draft.seen, put draft.value⟩ hfields.tail ?_
      rw [List.length_cons]
      omega

/-- A record is read member by member after its opening brace. -/
theorem run_read_object (record : Record α) (cs : List Char) :
    record.read.run ('\x7b' :: cs) =
      (iterate record.memberTurn (cs.length + 1) ⟨true, [], record.blank⟩).run cs := by
  rw [read, bind_of_ok (run_peek_cons (by decide) _)]
  exact run_loop ..

/-- **A written record is read field by field.** -/
theorem reads_record (record : Record α) (hnodup : (record.fields.map (·.name)).Nodup)
    (hwritten : FieldText.ReadBy record.fields written) {text : String}
    (htext : text = writtenRecord (List.zipWith (fun field w ↦ (field.name, w.text)) record.fields
      written)) :
    Reads record.read text.toList (written.foldlM FieldText.apply record.blank) := by
  intro rest _
  have hlength : record.fields.length ≤
      (separated true (FieldText.members record.fields written)).length := by
    calc record.fields.length = (FieldText.members record.fields written).length := by
          rw [FieldText.members, List.length_zipWith, ← hwritten.length_eq, Nat.min_self]
      _ ≤ _ := length_le_separated true fun cs hcs ↦ by
          obtain ⟨i, hi, rfl⟩ := List.getElem_of_mem hcs
          simp [FieldText.members, memberChars]
  rw [htext, toList_writtenRecord, List.map_zipWith, List.cons_append, List.append_assoc,
    List.singleton_append, run_read_object]
  refine ends_iterate_memberTurn hnodup hwritten ⟨true, [], record.blank⟩ (.initial hnodup) ?_
  rw [List.length_append]
  change record.fields.length <
    (separated true (FieldText.members record.fields written)).length + _ + 1
  omega

end Record

end LoraConcentrator.Json
