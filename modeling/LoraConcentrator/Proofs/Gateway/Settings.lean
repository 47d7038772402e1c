import LoraConcentrator.Proofs.Gateway.Guards
import LoraConcentrator.Proofs.Link.Notices

/-!
# Applying settings

What applying settings does is known for every gateway. A started gateway refuses them and stays as
it is. A stopped gateway takes the board, then the listed channels in order and the transmit channel
last, and keeps the channels that are not listed (`GatewayM.applySettings_of_stopped`).

Settings that list more channels than there are radios are refused only at the channel too many, so
the board and every receive channel are set by then and the transmit channel is not. The reader of
settings lets no such list through.
-/

namespace LoraConcentrator

open Link Program

/-! ### Listed channels -/

/-- The channels, with those listed in the place of the ones from the given index on. -/
def RxChannels.overlaid (channels : RxChannels) (index : Nat) (listed : List RxChannel) :
    RxChannels :=
  Vector.ofFn fun i ↦
    if index ≤ i then listed.getD (i - index) channels[i] else channels[i]

namespace RxChannels

variable {channels : RxChannels} {index : Nat} {listed : List RxChannel} {channel : RxChannel}

theorem getElem_radio (channels : RxChannels) (radio : Fin rxChannelCount) :
    channels[radio] = channels[radio.val] :=
  rfl

/-- A listed channel takes the place of its radio's, and the others stay. -/
theorem getElem_overlaid_zero (channels : RxChannels) (listed : List RxChannel)
    (i : Fin rxChannelCount) :
    (channels.overlaid 0 listed)[i] = listed.getD i channels[i] := by
  rw [getElem_radio, overlaid, Vector.getElem_ofFn, if_pos (Nat.zero_le _)]
  rfl

theorem overlaid_nil (channels : RxChannels) (index : Nat) :
    channels.overlaid index [] = channels := by
  ext1 i hi
  rw [overlaid, Vector.getElem_ofFn]
  split
  · rfl
  · rfl

/-- Without a radio for them nothing is put in. -/
theorem overlaid_of_le (h : rxChannelCount ≤ index) :
    channels.overlaid index listed = channels := by
  ext1 i hi
  rw [overlaid, Vector.getElem_ofFn, if_neg (Nat.not_le_of_lt (Nat.lt_of_lt_of_le hi h))]
  rfl

/-- Channels are put in one after the other. -/
theorem overlaid_cons (h : index < rxChannelCount) :
    channels.overlaid index (channel :: listed) =
      RxChannels.overlaid (channels.set index channel h) (index + 1) listed := by
  ext1 i hi
  rw [overlaid, overlaid, Vector.getElem_ofFn, Vector.getElem_ofFn]
  simp only [getElem_radio]
  rcases Nat.lt_trichotomy i index with hlt | rfl | hgt
  · have hne : index ≠ i := Nat.ne_of_gt hlt
    rw [if_neg (Nat.not_le_of_lt hlt), if_neg (by omega), Vector.getElem_set_ne h hi hne]
  · rw [if_pos (Nat.le_refl i), if_neg (Nat.not_succ_le_self i), Nat.sub_self,
      Vector.getElem_set_self]
    rfl
  · have hnext : i - index = i - (index + 1) + 1 := by omega
    rw [if_pos (Nat.le_of_lt hgt), if_pos (Nat.succ_le_of_lt hgt), hnext, List.getD_cons_succ,
      Vector.getElem_set_ne h hi (Nat.ne_of_lt hgt)]

end RxChannels

namespace GatewayM

variable {g : Gateway}

/-! ### One setting -/

/-- A stopped gateway takes any settings of the board. -/
theorem configureBoard_of_stopped (h : ¬ g.isStarted) (board : BoardSettings) :
    configureBoard board g =
      .ok () { g with board := board, link := g.link.note (.boardConfigured board.path) } := by
  rw [configureBoard, bind_of_ok (ensureStopped_of_stopped h)]
  rfl

/-- A stopped gateway takes any transmit channel. -/
theorem configureTxChannel_of_stopped (h : ¬ g.isStarted) (channel : TxChannel) :
    configureTxChannel channel g = .ok () { g with txChannel := channel } :=
  bind_of_ok (ensureStopped_of_stopped h)

/-- A stopped gateway takes a channel in range. -/
theorem configureRxChannel_of_lt (h : ¬ g.isStarted) {index : UInt8}
    (hindex : index.toNat < rxChannelCount) (channel : RxChannel) :
    configureRxChannel index channel g =
      .ok () { g with
        rxChannels := g.rxChannels.set index.toNat channel hindex
        link := g.link.note (channelNotice index channel) } := by
  rw [configureRxChannel, bind_of_ok (ensureStopped_of_stopped h), dif_pos hindex]
  rfl

/-- A channel out of range is refused with the number of channels there are. -/
theorem configureRxChannel_of_le (h : ¬ g.isStarted) {index : UInt8}
    (hindex : rxChannelCount ≤ index.toNat) (channel : RxChannel) :
    configureRxChannel index channel g =
      .error (.invalidChannel index (UInt8.ofNat rxChannelCount)) g := by
  rw [configureRxChannel, bind_of_ok (ensureStopped_of_stopped h),
    dif_neg (Nat.not_lt_of_le hindex)]
  rfl

/-! ### Several settings -/

/-- Channels in order are put in as long as there are radios for them; the one after the last is
refused. By induction on the list. -/
theorem configureRxChannels_of_stopped (h : ¬ g.isStarted) {index : Nat}
    (hindex : index ≤ rxChannelCount) (listed : List RxChannel) :
    ∃ link, SameButNotices g.link link ∧
      configureRxChannels index listed g =
        if index + listed.length ≤ rxChannelCount then
          .ok () { g with rxChannels := g.rxChannels.overlaid index listed, link := link }
        else
          .error (.invalidChannel (UInt8.ofNat rxChannelCount) (UInt8.ofNat rxChannelCount))
            { g with rxChannels := g.rxChannels.overlaid index listed, link := link } := by
  induction listed generalizing index g with
  | nil =>
    refine ⟨g.link, Std.Refl.refl _, ?_⟩
    rw [if_pos (by simpa using hindex), RxChannels.overlaid_nil]
    rfl
  | cons channel listed ih =>
    have hsmall : (UInt8.ofNat index).toNat = index := by
      rw [UInt8.toNat_ofNat', Nat.mod_eq_of_lt (Nat.lt_of_le_of_lt hindex (by decide))]
    rcases Nat.lt_or_eq_of_le hindex with hlt | rfl
    · have hlt' : (UInt8.ofNat index).toNat < rxChannelCount := hsmall.symm ▸ hlt
      have hset := configureRxChannel_of_lt h hlt' channel
      simp only [hsmall] at hset
      obtain ⟨link, hlink, hrest⟩ := ih (g := { g with
        rxChannels := g.rxChannels.set index channel hlt
        link := g.link.note (channelNotice (UInt8.ofNat index) channel) }) h hlt
      refine ⟨link, IsTrans.trans _ _ _ ⟨_ :: g.link.noticed, rfl⟩ hlink, ?_⟩
      have hcount : index + (channel :: listed).length = index + 1 + listed.length := by
        rw [List.length_cons]
        omega
      rw [configureRxChannels, bind_of_ok hset, hrest, hcount, RxChannels.overlaid_cons hlt]
    · have hle' : rxChannelCount ≤ (UInt8.ofNat rxChannelCount).toNat := Nat.le_of_eq hsmall.symm
      refine ⟨g.link, Std.Refl.refl _, ?_⟩
      rw [configureRxChannels, bind_of_error (configureRxChannel_of_le h hle' channel),
        RxChannels.overlaid_of_le (Nat.le_refl _), if_neg (by rw [List.length_cons]; omega)]

/-- A stopped gateway takes settings in full when they list no more channels than there are radios.
Else it refuses the one too many and has by then taken everything but the transmit channel. -/
theorem applySettings_of_stopped (h : ¬ g.isStarted) (settings : Settings) :
    ∃ link, SameButNotices g.link link ∧
      applySettings settings g =
        if settings.rxChannels.length ≤ rxChannelCount then
          .ok () { g with
            board := settings.board
            rxChannels := g.rxChannels.overlaid 0 settings.rxChannels
            txChannel := settings.tx
            link := link }
        else
          .error (.invalidChannel (UInt8.ofNat rxChannelCount) (UInt8.ofNat rxChannelCount))
            { g with
              board := settings.board
              rxChannels := g.rxChannels.overlaid 0 settings.rxChannels
              link := link } := by
  obtain ⟨link, hlink, hchannels⟩ := configureRxChannels_of_stopped (g := { g with
    board := settings.board, link := g.link.note (.boardConfigured settings.board.path) }) h
      (Nat.zero_le _) settings.rxChannels
  rw [Nat.zero_add] at hchannels
  refine ⟨link, IsTrans.trans _ _ _ ⟨_ :: g.link.noticed, rfl⟩ hlink, ?_⟩
  rw [applySettings, bind_of_ok (configureBoard_of_stopped h _)]
  split
  · rename_i hfits
    rw [if_pos hfits] at hchannels
    rw [bind_of_ok hchannels]
    refine configureTxChannel_of_stopped ?_ settings.tx
    exact h
  · rename_i hlong
    rw [if_neg hlong] at hchannels
    exact bind_of_error hchannels

/-- Four listed channels are refused, and the board is set all the same. -/
example :
    let settings : Settings := { board := { path := "A" }, rxChannels := List.replicate 4 {} }
    let (outcome, g) := Gateway.step (.applySettings settings) {}
    outcome = .error (.invalidChannel 3 3) ∧ g.board.path = "A" := by
  decide +kernel

end GatewayM

end LoraConcentrator
