import LoraConcentrator.Proofs.Gateway.BringUp
import Mathlib.Data.List.Nodup

/-!
# Which radios a session configures

A session should configure the radios it can use (`Usable`), each of them once, with radio 1 before
the others where that is asked for. What a session that was opened configured is always some of them
in that order (`UsableInOrder`), and in the order 0, 1, 2 it is all of them.

The order that starts with radio 1 turns the radios round all three that a board can have, not round
those that the device has: of one radio it visits radio 1, of two radios 1 and 2, and radio 0 comes
last. So on a device with one or two radios an enabled channel 0 is left out without an error, and
this is the only way to leave one out (`usableInOrder_of_startAttached`).
-/

namespace LoraConcentrator

open DialogueM

/-! ### The order of the radios -/

/-- The first numbers in order are the small ones. -/
theorem mem_take_finRange {n count : Nat} {i : Fin n} :
    i ∈ (List.finRange n).take count ↔ i < count := by
  rw [List.mem_take_iff_getElem]
  constructor
  · rintro ⟨j, hj, rfl⟩
    rw [List.getElem_finRange]
    exact Nat.lt_of_lt_of_le hj (Nat.min_le_left _ _)
  · intro h
    refine ⟨i, ?_, List.getElem_finRange _⟩
    rw [List.length_finRange]
    exact Nat.lt_min.2 ⟨h, i.isLt⟩

/-- Turning the radios round by one and by two goes back to where it started. -/
theorem add_one_eq_iff (radio radio' : Fin rxChannelCount) :
    radio + 1 = radio' ↔ radio = radio' + 2 := by
  revert radio radio'
  decide

/-- No radio is visited twice. -/
theorem nodup_radioOrder (radio1First : Bool) (count : Nat) :
    (radioOrder radio1First count).Nodup := by
  refine ((List.take_sublist _ _).nodup (List.nodup_finRange _)).map ?_
  cases radio1First
  · exact fun _ _ h ↦ h
  · exact fun _ _ h ↦ ((add_one_eq_iff _ _).1 h).trans ((add_one_eq_iff _ _).1 rfl).symm

section RadioOrder

variable {count : Nat} {radio : Fin rxChannelCount}

/-- Where no radio goes first all radios of the device are visited. -/
theorem mem_radioOrder_false : radio ∈ radioOrder false count ↔ radio < count := by
  rw [← mem_take_finRange]
  exact List.mem_map.trans exists_eq_right

/-- In the order that starts with radio 1, the place of a radio is two behind its number, turned
round. -/
theorem mem_radioOrder_true : radio ∈ radioOrder true count ↔ (radio + 2).val < count := by
  rw [← mem_take_finRange]
  refine List.mem_map.trans ?_
  constructor
  · rintro ⟨i, hi, h⟩
    rwa [← (add_one_eq_iff i radio).1 h]
  · exact fun h ↦ ⟨radio + 2, h, (add_one_eq_iff _ _).2 rfl⟩

theorem radioOrder_true_eq_cons (h : 0 < count) :
    ∃ radios, radioOrder true count = 1 :: radios := by
  obtain ⟨count, rfl⟩ := Nat.exists_eq_add_of_lt h
  exact ⟨_, rfl⟩

end RadioOrder

/-! ### Usable radios -/

/-- Whether a session can use a radio of a device that reports `count` of them: its channel is
enabled and the device has it. -/
def Usable (channels : RxChannels) (count : Nat) (radio : Fin rxChannelCount) : Prop :=
  channels[radio].enabled ∧ radio < min count rxChannelCount

instance (channels : RxChannels) (count : Nat) (radio : Fin rxChannelCount) :
    Decidable (Usable channels count radio) :=
  inferInstanceAs (Decidable (_ ∧ _))

/-- The radios are usable, each of them is named once, and radio 1 leads where it goes first. -/
structure UsableInOrder (radio1First : Bool) (channels : RxChannels) (count : Nat)
    (radios : List (Fin rxChannelCount)) : Prop where
  nodup : radios.Nodup
  usable : ∀ radio ∈ radios, Usable channels count radio
  radio1_first : radio1First → radios = [] ∨ radios.head? = some 1

section UsableRadios

variable {radio1First : Bool} {channels : RxChannels} {count : Nat}

/-- The order 0, 1, 2 misses no usable radio; the other one misses radio 0 just when the device has
some radios but not all. -/
theorem forall_usable_mem_iff :
    (∀ radio, Usable channels count radio →
      radio ∈ enabledRadios channels (radioOrder radio1First count)) ↔
    ¬ (radio1First ∧ (count = 1 ∨ count = 2) ∧ channels[0].enabled) := by
  cases radio1First with
  | false =>
    constructor
    · rintro - ⟨hfirst, -⟩
      cases hfirst
    · rintro - radio ⟨henabled, hlt⟩
      exact mem_enabledRadios.2
        ⟨mem_radioOrder_false.2 (Nat.lt_of_lt_of_le hlt (Nat.min_le_left _ _)), henabled⟩
  | true =>
    constructor
    · rintro h ⟨-, hcount, henabled⟩
      have husable : Usable channels count 0 := by
        refine ⟨henabled, Nat.lt_min.2 ⟨?_, by decide⟩⟩
        show 0 < count
        omega
      -- radio 0 comes last in the order, also when the device has fewer than three
      have hlt : 2 < count := mem_radioOrder_true.1 (mem_enabledRadios.1 (h 0 husable)).1
      omega
    · rintro h radio ⟨henabled, hlt⟩
      refine mem_enabledRadios.2 ⟨mem_radioOrder_true.2 ?_, henabled⟩
      have hlt : radio < count := (Nat.lt_min.1 hlt).1
      match radio with
      | 0 =>
        show 2 < count
        by_contra hle
        exact h ⟨rfl, by change 0 < count at hlt; omega, henabled⟩
      | 1 => exact Nat.zero_lt_of_lt hlt
      | 2 => exact Nat.lt_of_succ_lt hlt

/-- Radios that passed their checks are usable, each once and in order. -/
theorem usableInOrder_enabledRadios
    (h : ∀ radio ∈ enabledRadios channels (radioOrder radio1First count),
      radio < count ∧ (radio1First → channels[1].enabled)) :
    UsableInOrder radio1First channels count
      (enabledRadios channels (radioOrder radio1First count)) where
  nodup := (nodup_radioOrder radio1First count).filter _
  usable radio hmem :=
    ⟨(DialogueM.mem_enabledRadios.1 hmem).2, Nat.lt_min.2 ⟨(h radio hmem).1, radio.isLt⟩⟩
  radio1_first hfirst := by
    subst hfirst
    rcases hradios : enabledRadios channels (radioOrder true count) with - | ⟨radio, radios⟩
    · exact .inl rfl
    -- that any radio was configured means that radio 1 is enabled
    obtain ⟨hlt, henabled⟩ := h radio (hradios ▸ List.mem_cons_self)
    obtain ⟨others, hothers⟩ := radioOrder_true_eq_cons (Nat.zero_lt_of_lt hlt)
    have hone : channels[(1 : Fin rxChannelCount)].enabled := henabled rfl
    rw [hothers, enabledRadios_cons_of_enabled hone] at hradios
    cases hradios
    exact .inr rfl

end UsableRadios

/-! ### The radios of a session -/

namespace GatewayM

/-- **Usable radios**: a session that opens has met the device and then configured usable radios,
each once and for its own channel, radio 1 before the others where it goes first; and it has
configured all of them, unless radio 1 goes first, the device has some radios but not all, and
channel 0 is enabled. -/
theorem usableInOrder_of_startAttached {g g' : Gateway} (h : startAttached g = .ok () g') :
    ∃ identity radios bytes, g.link.Reports identity ∧
      Request.stream (IdSource.initial.number
        (meetRequests ++ radios.map (configRequest g.rxChannels))) = .ok bytes ∧
      g'.link.sent = g.link.sent ++ bytes ∧
      UsableInOrder g.board.radio1First g.rxChannels identity.rxRadios.toNat radios ∧
      ((∀ radio, Usable g.rxChannels identity.rxRadios.toNat radio → radio ∈ radios) ↔
        ¬ (g.board.radio1First ∧ (identity.rxRadios.toNat = 1 ∨ identity.rxRadios.toNat = 2) ∧
          g.rxChannels[0].enabled)) := by
  by_cases hstarted : g.isStarted
  · rw [startAttached_of_isStarted hstarted] at h
    cases h
  rw [startAttached_of_stopped hstarted] at h
  rcases hbring : bringUp g.board.radio1First g.rxChannels ⟨g.newController, g.link⟩ with
    ⟨_, d⟩ | ⟨e, d⟩
  · rw [hbring] at h
    cases h
    obtain ⟨identity, radios, hreports, rfl, hsent, hradios⟩ := bringUp_ok hbring
    obtain ⟨bytes, taken, hbytes, hm⟩ := hsent.moved
    exact ⟨identity, _, bytes, hreports, hbytes, hm.sent_eq, usableInOrder_enabledRadios hradios,
      forall_usable_mem_iff⟩
  · rw [hbring] at h
    cases h

/-- A board with three radios and every channel enabled: none is left out. -/
theorem startAttached_sample_configures_all :
    ∃ g' identity radios bytes,
      startAttached (.sample true 3 [0, 1, 2]) = .ok () g' ∧
      (Gateway.sample true 3 [0, 1, 2]).link.Reports identity ∧
      Request.stream (IdSource.initial.number (meetRequests ++
        radios.map (configRequest (Gateway.sample true 3 [0, 1, 2]).rxChannels))) = .ok bytes ∧
      g'.link.sent = bytes ∧
      UsableInOrder true (Gateway.sample true 3 [0, 1, 2]).rxChannels identity.rxRadios.toNat
        radios ∧
      ∀ radio, radio ∈ radios := by
  have hstart : (Gateway.sample true 3 [0, 1, 2]).sentAtStart.isSome := by decide +kernel
  obtain ⟨bytes, hbytes⟩ := Option.isSome_iff_exists.1 hstart
  obtain ⟨g', hg', -⟩ := Gateway.exists_of_sentAtStart hbytes
  obtain ⟨identity, radios, bytes, hreports, hstream, hsent, hinOrder, hall⟩ :=
    usableInOrder_of_startAttached hg'
  obtain rfl := (Gateway.reports_sample true 3 [0, 1, 2]).unique hreports
  refine ⟨g', _, radios, bytes, hg', hreports, hstream, hsent, hinOrder, fun radio ↦ ?_⟩
  refine hall.2 (by decide) radio ⟨?_, radio.isLt⟩
  revert radio
  decide

/-- On a board with two radios that starts with radio 1, the enabled channel 0 is left out. -/
theorem startAttached_sample_leaves_out :
    ¬ ∀ g g' : Gateway, startAttached g = .ok () g' →
      ∃ identity radios bytes, g.link.Reports identity ∧
        Request.stream (IdSource.initial.number
          (meetRequests ++ radios.map (configRequest g.rxChannels))) = .ok bytes ∧
        g'.link.sent = g.link.sent ++ bytes ∧
        UsableInOrder g.board.radio1First g.rxChannels identity.rxRadios.toNat radios ∧
        ∀ radio, Usable g.rxChannels identity.rxRadios.toNat radio → radio ∈ radios := by
  intro h
  obtain ⟨written, hwritten⟩ : ∃ written, Request.stream (IdSource.initial.number (meetRequests ++
      [configRequest (Gateway.sample true 2 [0, 1]).rxChannels 1])) = .ok written :=
    Request.exists_stream (by decide +kernel)
  have hstart : (Gateway.sample true 2 [0, 1]).sentAtStart =
      (Request.stream (IdSource.initial.number (meetRequests ++
        [configRequest (Gateway.sample true 2 [0, 1]).rxChannels 1]))).toOption := by
    decide +kernel
  rw [hwritten] at hstart
  obtain ⟨g', hg', hsent'⟩ := Gateway.exists_of_sentAtStart hstart
  obtain ⟨identity, radios, bytes, hreports, hstream, hsent, -, hall⟩ := h _ g' hg'
  obtain rfl := (Gateway.reports_sample true 2 [0, 1]).unique hreports
  obtain rfl : written = bytes := hsent'.symm.trans hsent
  -- the bytes written show that radio 1 alone was configured, but radio 0 is usable
  have hradios := List.append_cancel_left (IdSource.number_stream_injective hstream hwritten)
  have hmem : (0 : Fin rxChannelCount) ∈ radios := hall 0 ⟨by decide, by decide⟩
  have hrequest : configRequest (Gateway.sample true 2 [0, 1]).rxChannels 0 ∈
      [configRequest (Gateway.sample true 2 [0, 1]).rxChannels 1] := by
    rw [← hradios]
    exact List.mem_map_of_mem hmem
  revert hrequest
  decide

end GatewayM

end LoraConcentrator
