import LoraConcentrator.Proofs.Json.Records
import LoraConcentrator.Proofs.Json.Singles
import LoraConcentrator.Settings.Reader

/-!
# Reading written settings

Settings that were read are written as a text that is read as the same settings, unless a number in
them is not finite (`Settings.ofText_written`). Such a number comes from a text in which it is too
large for thirty-two bits; it is written as `null`, which is no number.
-/

namespace LoraConcentrator

open Binary Json Json.Reader

/-! ### Values -/

/-- A bandwidth is read back from its kilohertz. -/
theorem Bandwidth.reads_written (bandwidth : Bandwidth) :
    Reads reader (toString bandwidth.kilohertz.toNat).toList (.ok bandwidth) := by
  intro rest hrest
  have hread := reads_natural (by decide) bandwidth.kilohertz.toNat_lt rest hrest
  rw [reader, bind_of_ok hread, UInt16.ofNat_toNat, ofKilohertz?_kilohertz]
  rfl

/-- A spreading factor is read back from its number. -/
theorem SpreadingFactor.reads_written (spreading : SpreadingFactor) :
    Reads reader (toString spreading.code.toNat).toList (.ok spreading) := by
  intro rest hrest
  have hread := reads_natural (by decide) spreading.code.toNat_lt rest hrest
  rw [reader, bind_of_ok hread, UInt8.ofNat_toNat, ofCode?_code]
  rfl

/-- A value that is read is put into its field. -/
theorem reads_put {α β : Type} {value : Reader β} {cs : List Char} {b : β} {put : β → α → α}
    {put' : α → α} (h : Reads value cs (.ok b)) (hput : put b = put') :
    Reads (put <$> value) cs (.ok put') :=
  hput ▸ h.map put

/-! ### Records -/

/-- What a written channel is read as. -/
def RxChannel.reread (channel : RxChannel) : Except Problem RxChannel :=
  if channel.rssiOffset.isFinite then .ok channel else .error noNumber

/-- The fields of a written channel and what they are read as. -/
def RxChannel.fieldTexts (channel : RxChannel) : List (FieldText RxChannel) :=
  [⟨writtenBool channel.enabled, .ok fun c ↦ { c with enabled := channel.enabled }⟩,
    ⟨toString channel.freqHz.toNat, .ok fun c ↦ { c with freqHz := channel.freqHz }⟩,
    ⟨toString channel.bandwidth.kilohertz.toNat,
      .ok fun c ↦ { c with bandwidth := channel.bandwidth }⟩,
    ⟨toString channel.spreading.code.toNat, .ok fun c ↦ { c with spreading := channel.spreading }⟩,
    ⟨writtenSingle channel.rssiOffset,
      (fun x c ↦ { c with rssiOffset := x }) <$>
        if channel.rssiOffset.isFinite then .ok channel.rssiOffset else .error noNumber⟩,
    ⟨toString channel.syncWord.toNat, .ok fun c ↦ { c with syncWord := channel.syncWord }⟩]

/-- The members written for a receive channel are those that its reader knows. -/
theorem RxChannel.readBy_fieldTexts (channel : RxChannel) :
    FieldText.ReadBy record.fields channel.fieldTexts := by
  refine .cons ?_ (.cons ?_ (.cons ?_ (.cons ?_ (.cons ?_ (.cons ?_ .nil)))))
  · exact reads_put (reads_boolean channel.enabled) rfl
  · exact reads_put (reads_natural (by decide) channel.freqHz.toNat_lt) (by simp)
  · exact reads_put channel.bandwidth.reads_written rfl
  · exact reads_put channel.spreading.reads_written rfl
  · exact (reads_writtenSingle channel.rssiOffset).map _
  · exact reads_put (reads_natural (by decide) channel.syncWord.toNat_lt) (by simp)

/-- A receive channel is read back, unless its offset is infinite. -/
theorem RxChannel.reads_written (channel : RxChannel) :
    Reads record.read channel.written.toList channel.reread := by
  have houtcome : channel.fieldTexts.foldlM FieldText.apply record.blank = channel.reread := by
    unfold fieldTexts reread
    split_ifs <;> rfl
  rw [← houtcome]
  exact Record.reads_record record (by decide) channel.readBy_fieldTexts
    (congrArg writtenRecord rfl)

/-- A transmit channel is read back. -/
theorem TxChannel.reads_written (channel : TxChannel) :
    Reads record.read channel.written.toList (.ok channel) := by
  have hfields : FieldText.ReadBy record.fields
      [⟨writtenBool channel.enabled, .ok fun _ ↦ ⟨channel.enabled⟩⟩] :=
    .cons (reads_put (reads_boolean channel.enabled) rfl) .nil
  exact Record.reads_record record (by decide) hfields (congrArg writtenRecord rfl)

/-- The fields of the written settings of a board and what they are read as. -/
def BoardSettings.fieldTexts (board : BoardSettings) : List (FieldText BoardSettings) :=
  [⟨writtenString board.path, .ok fun b ↦ { b with path := board.path }⟩,
    ⟨writtenBool board.radio1First, .ok fun b ↦ { b with radio1First := board.radio1First }⟩,
    ⟨writtenBool board.checksIds, .ok fun b ↦ { b with checksIds := board.checksIds }⟩,
    ⟨toString board.readTimeoutMs.toNat,
      .ok fun b ↦ { b with readTimeoutMs := board.readTimeoutMs }⟩,
    ⟨toString board.replyTimeoutMs.toNat,
      .ok fun b ↦ { b with replyTimeoutMs := board.replyTimeoutMs }⟩,
    ⟨toString board.pollIntervalMs.toNat,
      .ok fun b ↦ { b with pollIntervalMs := board.pollIntervalMs }⟩]

/-- The members written for a board are those that its reader knows. -/
theorem BoardSettings.readBy_fieldTexts (board : BoardSettings) :
    FieldText.ReadBy record.fields board.fieldTexts := by
  refine .cons ?_ (.cons ?_ (.cons ?_ (.cons ?_ (.cons ?_ (.cons ?_ .nil)))))
  · exact reads_put (reads_text board.path) rfl
  · exact reads_put (reads_boolean board.radio1First) rfl
  · exact reads_put (reads_boolean board.checksIds) rfl
  · exact reads_put (reads_natural (by decide) board.readTimeoutMs.toNat_lt) (by simp)
  · exact reads_put (reads_natural (by decide) board.replyTimeoutMs.toNat_lt) (by simp)
  · exact reads_put (reads_natural (by decide) board.pollIntervalMs.toNat_lt) (by simp)

/-- The settings of a board are read back. -/
theorem BoardSettings.reads_written (board : BoardSettings) :
    Reads record.read board.written.toList (.ok board) :=
  Record.reads_record record (by decide) board.readBy_fieldTexts (congrArg writtenRecord rfl)

/-! ### Settings -/

namespace Settings

variable {settings : Settings} {text : String}

/-- Whether every strength that is added is a number. -/
def isFinite (settings : Settings) : Bool :=
  settings.rxChannels.all (·.rssiOffset.isFinite)

/-- Channels are read again if all their numbers are finite; the first one that is not stops the
reading. -/
theorem mapM_reread (channels : List RxChannel) :
    channels.mapM RxChannel.reread =
      if channels.all (·.rssiOffset.isFinite) then .ok channels else .error noNumber := by
  induction channels with
  | nil => rfl
  | cons channel channels ih =>
    rw [List.mapM_cons, ih, List.all_cons, RxChannel.reread]
    cases channel.rssiOffset.isFinite with
    | false => rfl
    | true =>
      rw [if_pos rfl, Bool.true_and]
      split_ifs <;> rfl

/-- What written settings are read as, before their channels are counted. -/
theorem reads_written (settings : Settings) :
    Reads record.read settings.written.toList
      (if settings.isFinite then .ok settings else .error noNumber) := by
  have hchannels : Reads (Reader.list RxChannel.record.read)
      (writtenList (settings.rxChannels.map RxChannel.written)).toList
      (settings.rxChannels.mapM RxChannel.reread) :=
    reads_list settings.rxChannels fun channel _ ↦
      ⟨channel.reads_written, _, _, toList_writtenRecord _, by decide, by decide⟩
  have hfields : FieldText.ReadBy record.fields
      [⟨settings.board.written, .ok fun s ↦ { s with board := settings.board }⟩,
        ⟨writtenList (settings.rxChannels.map RxChannel.written),
          (fun channels s ↦ { s with rxChannels := channels }) <$>
            settings.rxChannels.mapM RxChannel.reread⟩,
        ⟨settings.tx.written, .ok fun s ↦ { s with tx := settings.tx }⟩] :=
    .cons (reads_put settings.board.reads_written rfl) <|
      .cons (hchannels.map _) <| .cons (reads_put settings.tx.reads_written rfl) .nil
  have htext : settings.written = writtenRecord _ := congrArg writtenRecord rfl
  have hread := Record.reads_record record (by decide) hfields htext
  have houtcome : settings.rxChannels.mapM RxChannel.reread =
      if settings.isFinite then .ok settings.rxChannels else .error noNumber := mapM_reread _
  rw [houtcome] at hread
  split_ifs at hread ⊢ <;> exact hread

/-- Settings that were read list no more channels than there are. -/
theorem length_le_of_ofText (h : ofText text = .ok settings) :
    settings.rxChannels.length ≤ rxChannelCount := by
  unfold ofText at h
  split at h
  · cases h
  · split_ifs at h with hlength
    cases h
    exact not_lt.1 hlength

/-- **The text of settings that were read is read as the same settings if their numbers are finite,
and is refused otherwise.** A number too large for thirty-two bits is read as an infinity, and
there is no text of an infinity. -/
theorem ofText_written (h : ofText text = .ok settings) :
    ofText settings.written =
      if settings.isFinite then .ok settings else .error (.settings noNumber) := by
  have hlength := length_le_of_ofText h
  rw [ofText, settings.reads_written.ofText]
  cases settings.isFinite with
  | false => rfl
  | true => exact if_neg (not_lt.2 hlength)

/-! ### One channel -/

/-- A settings text with one channel, of which the text of the added strength is given. -/
def offsetText (offset : String) : String :=
  "\x7b\"board\":\x7b\"tty_path\":\"/dev/ttyACM0\"\x7d,\"rx_channels\":[\x7b" ++
    "\"freq_hz\":2403000000,\"bandwidth\":800,\"datarate\":12,\"rssi_offset\":" ++ offset ++
    "\x7d]\x7d"

/-- The settings of such a text. -/
def offsetSettings (offset : Single) : Settings where
  board := { path := "/dev/ttyACM0" }
  rxChannels := [{ freqHz := 2403000000, rssiOffset := offset }]

/-- A strength of `-2.5` is read again. -/
theorem ofText_written_finiteOffset :
    ofText (offsetText "-2.5") = .ok (offsetSettings ⟨0xC0200000⟩) ∧
      ofText (offsetSettings ⟨0xC0200000⟩).written = .ok (offsetSettings ⟨0xC0200000⟩) := by
  have h : ofText (offsetText "-2.5") = .ok (offsetSettings ⟨0xC0200000⟩) := by decide +kernel
  exact ⟨h, (ofText_written h).trans (if_pos (by decide))⟩

/-- A strength of `1e39` is an infinity of thirty-two bits, and its text is refused. -/
theorem ofText_infiniteOffset_refused :
    ofText (offsetText "1e39") = .ok (offsetSettings ⟨0x7F800000⟩) ∧
      ofText (offsetSettings ⟨0x7F800000⟩).written = .error (.settings noNumber) := by
  have hread : ofText (offsetText "1e39") = .ok (offsetSettings ⟨0x7F800000⟩) := by decide +kernel
  have hinfinite : (offsetSettings ⟨0x7F800000⟩).isFinite = false := by decide
  refine ⟨hread, ?_⟩
  rw [ofText, (reads_written _).ofText, hinfinite]
  rfl

end Settings

end LoraConcentrator
