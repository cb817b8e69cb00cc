import Netsim.Logger.Model

/-!
# When the logs of a packet are announced as closed

`ALL_LOGS_CLOSED_FOR_PACKET` is published whenever closing an OUT file leaves the map
`files_[OUT][packet_id]` empty. For a packet that `N - 1` receivers log, that is once and at the
last END exactly if at every earlier END the file of some other receiver is open (`Overlap`,
`closedOnce_iff_overlap`): when a receiver's file is closed before the next receiver's is opened,
the event is published early, and again later.

The buffers of the packet may come interleaved with any other traffic of the logger that does not
use the same map: detector streams, and OUT packets with another id.
-/

namespace Netsim

namespace LoggerThread

/-- The receivers of modem `i`: the other ones of `n` modems. -/
def receivers (n : ℕ) (i : ℤ) : List ℤ := ((List.range n).map Int.ofNat).filter (· ≠ i)

/-- The buffers of packet `id` from `i` to `j`. -/
def packetBuffers (id i j : ℤ) (es : List (LogStream × TaggedAudioBuffer)) :
    List TaggedAudioBuffer :=
  (es.filter fun e => e.1 = .processor i j ∧ e.2.packetId = id).map (·.2)

/-- Packet `id` of modem `i` is logged for each of its receivers, one stream per receiver. -/
structure PacketRun (n : ℕ) (i id : ℤ) (es : List (LogStream × TaggedAudioBuffer)) : Prop where
  /-- Each receiver's stream carries the whole packet. -/
  whole : ∀ j ∈ receivers n i, WholePacket (packetBuffers id i j es)
  /-- No other OUT stream uses the packet id. -/
  only : ∀ e ∈ es, e.1.dir = .OUT → e.2.packetId = id → ∃ j ∈ receivers n i, e.1 = .processor i j
  /-- Every buffer holds audio. -/
  audio : ∀ e ∈ es, e.2.buffer.isSome

/-- An END buffer of an OUT stream of packet `id`. -/
def IsEnd (id : ℤ) (e : LogStream × TaggedAudioBuffer) : Prop :=
  e.1.dir = .OUT ∧ e.2.packetId = id ∧ e.2.marker = .END

instance (id : ℤ) (e : LogStream × TaggedAudioBuffer) : Decidable (IsEnd id e) :=
  inferInstanceAs (Decidable (_ ∧ _ ∧ _))

/-- The packet has been started for receiver `j` and has not ended. -/
def Receiving (id i j : ℤ) (es : List (LogStream × TaggedAudioBuffer)) : Prop :=
  packetBuffers id i j es ≠ [] ∧ ∀ b ∈ packetBuffers id i j es, b.marker ≠ .END

/-- How often the logs of packet `id` of modem `i` have been announced as closed. -/
def announcements (id i : ℤ) (l : LoggerThread) : ℕ :=
  l.loggerEvents.countP fun e =>
    e.event = .ALL_LOGS_CLOSED_FOR_PACKET ∧ e.packetId = id ∧ e.txModemId = some i

/-- The logs are announced as closed once, when the last END of the packet is handled. -/
def ClosedOnce (cfg : LoggerConfig) (id i : ℤ) (es : List (LogStream × TaggedAudioBuffer)) :
    Prop :=
  ∃ pre e post, es = pre ++ e :: post ∧ IsEnd id e ∧ (∀ f ∈ post, ¬ IsEnd id f) ∧
    (after cfg pre).map (announcements id i) = some 0 ∧
    (after cfg (pre ++ [e])).map (announcements id i) = some 1 ∧
    (after cfg es).map (announcements id i) = some 1

/-- There is a receiver, and at every END but the last the packet is being received by another
receiver. -/
def Overlap (n : ℕ) (id i : ℤ) (es : List (LogStream × TaggedAudioBuffer)) : Prop :=
  receivers n i ≠ [] ∧ ∀ pre e post, es = pre ++ e :: post → IsEnd id e →
    (∃ f ∈ post, IsEnd id f) → ∃ j, e.1 ≠ .processor i j ∧ Receiving id i j pre

/-! ### Steps that do not concern the packet -/

section Frame

variable {cfg : LoggerConfig} {l : LoggerThread} {σ : LogStream} {b : TaggedAudioBuffer}

/-- From `l` to `l'` only the map of `dir` and `id` changed, and only events of packet `id` were
published, `ALL_LOGS_CLOSED_FOR_PACKET` only for OUT. -/
def OnlyLogs (dir : Direction) (id : ℤ) (l l' : LoggerThread) : Prop :=
  (∀ dir' id', ¬ (dir' = dir ∧ id' = id) → l'.files dir' id' = l.files dir' id') ∧
    ∃ more, l'.loggerEvents = l.loggerEvents ++ more ∧ ∀ e ∈ more, e.packetId = id ∧
      (e.event = .ALL_LOGS_CLOSED_FOR_PACKET → dir = .OUT)

theorem OnlyLogs.trans {dir : Direction} {id : ℤ} {l l' l'' : LoggerThread}
    (h : OnlyLogs dir id l l') (h' : OnlyLogs dir id l' l'') : OnlyLogs dir id l l'' := by
  obtain ⟨hfiles, more, hmore, hevents⟩ := h
  obtain ⟨hfiles', more', hmore', hevents'⟩ := h'
  refine ⟨fun dir' id' hne => (hfiles' dir' id' hne).trans (hfiles dir' id' hne),
    more ++ more', by simp [hmore', hmore], ?_⟩
  intro e he
  rcases List.mem_append.1 he with he | he
  · exact hevents e he
  · exact hevents' e he

/-- A change of files that leaves the other maps and the events alone. -/
theorem OnlyLogs.of_files {dir : Direction} {id : ℤ} {l l' : LoggerThread}
    (hfiles : ∀ dir' id', ¬ (dir' = dir ∧ id' = id) → l'.files dir' id' = l.files dir' id')
    (hevents : l'.loggerEvents = l.loggerEvents) : OnlyLogs dir id l l' :=
  ⟨hfiles, [], by simp [hevents], by simp⟩

theorem exists_logStart (haudio : b.buffer.isSome) (fromI toI modemIndex : ℤ) (dir : Direction) :
    ∃ l', l.logStart b fromI toI dir modemIndex = some l' ∧ OnlyLogs dir b.packetId l l' := by
  obtain ⟨audio, haudio⟩ := Option.isSome_iff_exists.1 haudio
  by_cases hb : b.marker = .START
  · have hopen (file : LogFile) (hdir : file.dir = dir) (hid : file.packetId = b.packetId) :
        OnlyLogs dir b.packetId l (l.openFile audio file modemIndex) := by
      refine .of_files (fun dir' id' hne => ?_) rfl
      rw [← hdir, ← hid] at hne
      simp [openFile, hne]
    -- IN also publishes PACKET_START
    cases dir with
    | IN =>
        let file : LogFile := ⟨.IN, b.packetId, fromI, none⟩
        refine ⟨(l.openFile audio file modemIndex).publish
            ⟨.PACKET_START, none, none, b.packetId, some modemIndex⟩,
          by simp [logStart, hb, haudio, file], (hopen file rfl rfl).trans ?_⟩
        exact ⟨fun _ _ _ => rfl, _, rfl, by simp⟩
    | OUT =>
        exact ⟨l.openFile audio ⟨.OUT, b.packetId, fromI, some toI⟩ modemIndex,
          by simp [logStart, hb, haudio], hopen _ rfl rfl⟩
  · exact ⟨l, by simp [logStart, hb], .of_files (fun _ _ _ => rfl) rfl⟩

theorem exists_logSamples (haudio : b.buffer.isSome) (modemIndex : ℤ) (dir : Direction) :
    ∃ l', l.logSamples b dir modemIndex = some l' ∧ OnlyLogs dir b.packetId l l' := by
  obtain ⟨audio, haudio⟩ := Option.isSome_iff_exists.1 haudio
  unfold logSamples filePtr
  -- a missing pointer is inserted as null, in the map of the packet
  cases (l.files dir b.packetId).lookup modemIndex with
  | none =>
      refine ⟨_, rfl, .of_files (fun dir' id' hne => ?_) rfl⟩
      simp [hne]
  | some ptr =>
      cases ptr with
      | none => exact ⟨l, rfl, .of_files (fun _ _ _ => rfl) rfl⟩
      | some file =>
          exact ⟨l.write file (audio.samples.map .sample), by simp [haudio],
            .of_files (fun _ _ _ => rfl) rfl⟩

theorem onlyLogs_closeFile (dir : Direction) (id modemIndex fromI : ℤ) :
    OnlyLogs dir id l (l.closeFile cfg dir id modemIndex fromI) := by
  refine ⟨fun dir' id' hne => by simp [hne], ?_⟩
  unfold closeFile
  dsimp only
  split_ifs with h
  · exact ⟨_, rfl, by simp [h.1]⟩
  · exact ⟨[], by simp, by simp⟩

variable (cfg l σ) in
/-- A buffer with audio is always logged, and concerns only its own direction and packet. -/
theorem exists_receive (haudio : b.buffer.isSome) :
    ∃ l', receive cfg l (σ, b) = some l' ∧ OnlyLogs σ.dir b.packetId l l' := by
  -- `log_audio` is START, samples and END in turn
  have hlog (fromI toI : ℤ) (dir : Direction) :
      ∃ l', l.logAudio cfg b fromI toI dir = some l' ∧ OnlyLogs dir b.packetId l l' := by
    obtain ⟨l₁, h₁, hl₁⟩ := exists_logStart (l := l) haudio fromI toI
      (if dir = .IN then fromI else toI) dir
    obtain ⟨l₂, h₂, hl₂⟩ := exists_logSamples (l := l₁) haudio
      (if dir = .IN then fromI else toI) dir
    have hl : OnlyLogs dir b.packetId l l₂ := hl₁.trans hl₂
    by_cases hb : b.marker = .END
    · exact ⟨l₂.closeFile cfg dir b.packetId (if dir = .IN then fromI else toI) fromI,
        by simp [logAudio, h₁, h₂, hb], hl.trans (onlyLogs_closeFile _ _ _ _)⟩
    · exact ⟨l₂, by simp [logAudio, h₁, h₂, hb], hl⟩
  cases σ with
  | detector i => exact hlog i (-1) .IN
  | processor fromI toI => exact hlog fromI toI .OUT

end Frame

/-! ### The buffers of the packet so far -/

section PacketBuffers

variable {id i j : ℤ} {es : List (LogStream × TaggedAudioBuffer)} {σ : LogStream}
  {b : TaggedAudioBuffer}

theorem packetBuffers_append (es fs : List (LogStream × TaggedAudioBuffer)) :
    packetBuffers id i j (es ++ fs) = packetBuffers id i j es ++ packetBuffers id i j fs := by
  simp [packetBuffers]

theorem packetBuffers_concat_self (hb : b.packetId = id) :
    packetBuffers id i j (es ++ [(.processor i j, b)]) = packetBuffers id i j es ++ [b] := by
  simp [packetBuffers, hb]

theorem packetBuffers_concat_of_ne (h : ¬ (σ = .processor i j ∧ b.packetId = id)) :
    packetBuffers id i j (es ++ [(σ, b)]) = packetBuffers id i j es := by
  simp [packetBuffers, h]

end PacketBuffers

/-! ### The invariant -/

/-- The entries of `files_[OUT][id]` are open files, those of the receivers that are receiving
the packet. -/
structure ClosedInv (id i : ℤ) (es : List (LogStream × TaggedAudioBuffer)) (l : LoggerThread) :
    Prop where
  opened : ∀ j, Receiving id i j es → ∃ file, l.openAt .OUT id j = some file
  keys : ∀ j, ¬ Receiving id i j es → j ∉ l.files .OUT id

theorem closedInv_init (id i : ℤ) : ClosedInv id i [] {} where
  opened j h := absurd rfl h.1
  keys j _ h := by simp at h

/-- This END finds no other receiver receiving the packet. -/
def EndsAlone (id i : ℤ) (es : List (LogStream × TaggedAudioBuffer))
    (e : LogStream × TaggedAudioBuffer) : Prop :=
  IsEnd id e ∧ ∀ j, e.1 ≠ .processor i j → ¬ Receiving id i j es

section Steps

variable {cfg : LoggerConfig} {id i j : ℤ} {es : List (LogStream × TaggedAudioBuffer)}
  {l : LoggerThread} {σ : LogStream} {b : TaggedAudioBuffer}

theorem ClosedInv.mem_files_iff (h : ClosedInv id i es l) (j : ℤ) :
    j ∈ l.files .OUT id ↔ Receiving id i j es := by
  by_cases hj : Receiving id i j es
  · obtain ⟨file, hfile⟩ := h.opened j hj
    rw [openAt, Option.join_eq_some_iff] at hfile
    exact iff_of_true (AList.lookup_isSome.1 (by simp [hfile])) hj
  · exact iff_of_false (h.keys j hj) hj

/-- The invariant from the entries after a step. -/
theorem closedInv_of_mem_iff
    (hmem : ∀ j, j ∈ l.files .OUT id ↔ Receiving id i j es)
    (hopen : ∀ j ∈ l.files .OUT id, ∃ file, l.openAt .OUT id j = some file) :
    ClosedInv id i es l where
  opened j hj := hopen j ((hmem j).2 hj)
  keys j hj := fun h => hj ((hmem j).1 h)

variable (cfg) in
/-- Traffic that does not use the map of the packet. -/
theorem ClosedInv.receive_other (h : ClosedInv id i es l) (haudio : b.buffer.isSome)
    (hother : ¬ (σ.dir = .OUT ∧ b.packetId = id)) :
    ∃ l', receive cfg l (σ, b) = some l' ∧ ClosedInv id i (es ++ [(σ, b)]) l' ∧
      announcements id i l' = announcements id i l := by
  obtain ⟨l', hl', hfiles, more, hmore, hevents⟩ := exists_receive cfg l σ haudio
  have hfiles : l'.files .OUT id = l.files .OUT id :=
    hfiles _ _ fun hkey => hother ⟨hkey.1.symm, hkey.2.symm⟩
  have hreceiving (j : ℤ) : Receiving id i j (es ++ [(σ, b)]) ↔ Receiving id i j es := by
    rw [Receiving, packetBuffers_concat_of_ne, ← Receiving]
    -- a buffer of a stream of the packet would use the map
    rintro ⟨rfl, hb⟩
    exact hother ⟨rfl, hb⟩
  refine ⟨l', hl', ⟨fun j hj => ?_, fun j hj => ?_⟩, ?_⟩
  · rw [openAt, hfiles]
    exact h.opened j ((hreceiving j).1 hj)
  · rw [hfiles]
    exact h.keys j fun hj' => hj ((hreceiving j).2 hj')
  · rw [announcements, hmore, List.countP_append, announcements, Nat.add_eq_left,
      List.countP_eq_zero]
    -- an announcement of the packet is made only for an OUT buffer with its id
    intro e he hcount
    obtain ⟨hid, hdir⟩ := hevents e he
    simp only [decide_eq_true_eq] at hcount
    exact hother ⟨hdir hcount.1, hid.symm.trans hcount.2.1⟩

/-- Who is receiving after one more buffer of the stream to `j`. -/
theorem receiving_concat_iff (hb : b.packetId = id)
    (hends : ∀ x ∈ packetBuffers id i j es, x.marker ≠ .END) (k : ℤ) :
    Receiving id i k (es ++ [(.processor i j, b)]) ↔
      if k = j then b.marker ≠ .END else Receiving id i k es := by
  split_ifs with hk
  · subst hk
    rw [Receiving, packetBuffers_concat_self hb]
    simp only [ne_eq, List.append_eq_nil_iff, List.cons_ne_self, and_false, not_false_eq_true,
      true_and, List.mem_append, List.mem_singleton]
    -- the earlier buffers of the stream are no ENDs, so only the new one counts
    constructor
    · intro hall
      exact hall b (.inr rfl)
    · rintro hne x (hx | rfl)
      · exact hends x hx
      · exact hne
  · rw [Receiving, packetBuffers_concat_of_ne, ← Receiving]
    rintro ⟨heq, -⟩
    exact hk (by simpa using heq.symm)

variable (cfg) in
/-- A START buffer of the packet adds the receiver's file. -/
theorem ClosedInv.receive_start (h : ClosedInv id i es l) (haudio : b.buffer.isSome)
    (hid : b.packetId = id) (hb : b.marker = .START)
    (hends : ∀ x ∈ packetBuffers id i j es, x.marker ≠ .END) :
    ∃ l', receive cfg l (.processor i j, b) = some l' ∧
      ClosedInv id i (es ++ [(.processor i j, b)]) l' ∧
      announcements id i l' = announcements id i l := by
  obtain ⟨audio, haudio⟩ := Option.isSome_iff_exists.1 haudio
  subst hid
  refine ⟨_, LoggerThread.receive_start hb haudio, closedInv_of_mem_iff ?_ ?_, rfl⟩
  · intro k
    rw [receiving_concat_iff rfl hends]
    by_cases hk : k = j <;>
      simp [LogStream.dir, LogStream.modemIndex, LogStream.file, openFile, hb, hk,
        h.mem_files_iff]
  · intro k hk
    simp only [LogStream.dir, reduceCtorEq, if_false, openAt_write, openAt_openFile]
    split_ifs with hkey
    · exact ⟨_, rfl⟩
    · refine h.opened k ((h.mem_files_iff k).1 ?_)
      have hkj : k ≠ j := fun hkj => hkey ⟨rfl, rfl, hkj⟩
      simpa [LogStream.dir, LogStream.modemIndex, LogStream.file, openFile, hkj] using hk

theorem announcements_closeFile (l : LoggerThread) (j : ℤ) :
    announcements id i (l.closeFile cfg .OUT id j i) =
      announcements id i l + if ((l.files .OUT id).erase j).keys = [] then 1 else 0 := by
  simp only [closeFile, true_and, files_setFiles, and_self, if_true]
  split_ifs <;> simp [announcements, List.countP_append]

/-- The map is empty after an END iff no other receiver is receiving the packet. -/
theorem ClosedInv.keys_erase_eq_nil_iff (h : ClosedInv id i es l) (j : ℤ) :
    ((l.files .OUT id).erase j).keys = [] ↔ ∀ k, k ≠ j → ¬ Receiving id i k es := by
  rw [List.eq_nil_iff_forall_not_mem]
  refine forall_congr' fun k => ?_
  rw [← AList.mem_keys, AList.mem_erase, h.mem_files_iff, not_and]

variable (cfg) in
/-- A later buffer of the packet leaves the entries alone, and its END removes the receiver's and
announces the logs as closed if it was the only one. -/
theorem ClosedInv.receive_of_receiving (h : ClosedInv id i es l) (haudio : b.buffer.isSome)
    (hid : b.packetId = id) (hb : b.marker ≠ .START) (hj : Receiving id i j es) :
    ∃ l', receive cfg l (.processor i j, b) = some l' ∧
      ClosedInv id i (es ++ [(.processor i j, b)]) l' ∧
      (EndsAlone id i es (.processor i j, b) →
        announcements id i l' = announcements id i l + 1) ∧
      (¬ EndsAlone id i es (.processor i j, b) →
        announcements id i l' = announcements id i l) := by
  obtain ⟨audio, haudio⟩ := Option.isSome_iff_exists.1 haudio
  obtain ⟨file, hfile⟩ := h.opened j hj
  subst hid
  have halone : EndsAlone b.packetId i es (.processor i j, b) ↔
      b.marker = .END ∧ ∀ k, k ≠ j → ¬ Receiving b.packetId i k es := by
    simp [EndsAlone, IsEnd, LogStream.dir, eq_comm]
  have hreceive := receive_of_openAt cfg (σ := .processor i j) hb haudio hfile
  dsimp only at hreceive
  -- only END changes the entries
  by_cases hend : b.marker = .END
  · rw [if_pos hend] at hreceive
    refine ⟨_, hreceive, closedInv_of_mem_iff ?_ ?_, ?_, ?_⟩
    · intro k
      rw [receiving_concat_iff rfl hj.2]
      by_cases hk : k = j <;>
        simp [LogStream.dir, LogStream.modemIndex, hend, hk, h.mem_files_iff]
    · intro k hk
      have hmem : k ≠ j ∧ k ∈ l.files .OUT b.packetId := by
        simpa [LogStream.dir, LogStream.modemIndex] using hk
      rw [openAt_closeFile, if_neg fun hkey => hmem.1 hkey.2.2]
      exact h.opened k ((h.mem_files_iff k).1 hmem.2)
    · intro halone'
      exact (announcements_closeFile _ j).trans
        (congrArg _ (if_pos ((h.keys_erase_eq_nil_iff j).2 (halone.1 halone').2)))
    · intro halone'
      refine (announcements_closeFile _ j).trans (congrArg _ (if_neg fun hkeys => halone' ?_))
      exact halone.2 ⟨hend, (h.keys_erase_eq_nil_iff j).1 hkeys⟩
  · rw [if_neg hend] at hreceive
    refine ⟨_, hreceive, closedInv_of_mem_iff ?_ ?_, ?_, ?_⟩
    · intro k
      rw [receiving_concat_iff rfl hj.2]
      by_cases hk : k = j
      · simp [hk, hend, h.mem_files_iff, hj]
      · simp [hk, h.mem_files_iff]
    · exact fun k hk => h.opened k ((h.mem_files_iff k).1 hk)
    · exact fun halone' => absurd (halone.1 halone').1 hend
    · exact fun _ => rfl

end Steps

/-! ### Runs -/

section Runs

variable {cfg : LoggerConfig} {n : ℕ} {id i : ℤ}
  {es pre mid post : List (LogStream × TaggedAudioBuffer)} {e : LogStream × TaggedAudioBuffer}
  {l : LoggerThread}

variable (cfg) in
/-- One step of the packet's run: the logs are announced as closed at the ENDs that find no other
receiver receiving the packet. -/
theorem ClosedInv.step (h : ClosedInv id i pre l) (hrun : PacketRun n i id (pre ++ e :: post)) :
    ∃ l', receive cfg l e = some l' ∧ ClosedInv id i (pre ++ [e]) l' ∧
      (EndsAlone id i pre e → announcements id i l' = announcements id i l + 1) ∧
      (¬ EndsAlone id i pre e → announcements id i l' = announcements id i l) := by
  obtain ⟨σ, b⟩ := e
  have hmem : (σ, b) ∈ pre ++ (σ, b) :: post := by simp
  have haudio := hrun.audio _ hmem
  -- the map of the packet is used only by its own streams
  by_cases hown : σ.dir = .OUT ∧ b.packetId = id
  · obtain ⟨j, hj, rfl⟩ := hrun.only _ hmem hown.1 hown.2
    have hwhole := hrun.whole j hj
    rw [List.append_cons, packetBuffers_append, packetBuffers_concat_self hown.2,
      List.append_assoc, List.singleton_append] at hwhole
    -- what comes before a buffer of a whole packet is empty at START and has no END
    obtain ⟨hstart, -, hends⟩ := hwhole.split
    by_cases hb : b.marker = .START
    · obtain ⟨l', hl', hinv, hann⟩ := h.receive_start cfg haudio hown.2 hb hends
      refine ⟨l', hl', hinv, fun halone => ?_, fun _ => hann⟩
      rw [halone.1.2.2] at hb
      cases hb
    · exact h.receive_of_receiving cfg haudio hown.2 hb ⟨fun hnil => hb (hstart.2 hnil), hends⟩
  · obtain ⟨l', hl', hinv, hann⟩ := h.receive_other cfg haudio hown
    exact ⟨l', hl', hinv, fun halone => absurd ⟨halone.1.1, halone.1.2.1⟩ hown, fun _ => hann⟩

variable (cfg) in
/-- The logger goes on through the packet's run, and keeps the invariant. -/
theorem PacketRun.exists_after (hrun : PacketRun n i id es) (hpre : pre <+: es) :
    ∃ l, after cfg pre = some l ∧ ClosedInv id i pre l := by
  refine Run.exec_induction (receive cfg) {} (G := fun _ _ => True) (P := (· <+: es))
    (I := ClosedInv id i) ?_ (closedInv_init id i) ?_ pre hpre (fun _ _ _ _ _ _ => trivial)
  · exact fun es' e h => (List.prefix_append es' [e]).trans h
  · rintro es' e l ⟨post, rfl⟩ h -
    have hrun' : PacketRun n i id (es' ++ e :: post) := by simpa using hrun
    obtain ⟨l', hl', hinv, -⟩ := h.step cfg hrun'
    exact ⟨l', hl', hinv⟩

/-- What one buffer adds to the announcements. -/
theorem PacketRun.announcements_concat (hrun : PacketRun n i id (pre ++ e :: post)) {k : ℕ}
    (hk : (after cfg pre).map (announcements id i) = some k) :
    (EndsAlone id i pre e →
      (after cfg (pre ++ [e])).map (announcements id i) = some (k + 1)) ∧
    (¬ EndsAlone id i pre e →
      (after cfg (pre ++ [e])).map (announcements id i) = some k) := by
  obtain ⟨l, hl, hinv⟩ := hrun.exists_after cfg (List.prefix_append pre (e :: post))
  obtain ⟨l', hl', -, halone, hnot⟩ := hinv.step cfg hrun
  have hafter : after cfg (pre ++ [e]) = some l' := by
    rw [after, Run.exec_concat, ← after, hl, Option.bind_some, hl']
  obtain rfl : announcements id i l = k := by simpa [hl] using hk
  rw [hafter]
  exact ⟨fun h => congrArg some (halone h), fun h => congrArg some (hnot h)⟩

/-- Announcements are not withdrawn, and none are made where no END ends alone. -/
theorem PacketRun.announcements_append (hrun : PacketRun n i id (pre ++ mid ++ post)) {k : ℕ}
    (hk : (after cfg pre).map (announcements id i) = some k) :
    ∃ m, (after cfg (pre ++ mid)).map (announcements id i) = some (k + m) ∧
      ((∀ xs e ys, mid = xs ++ e :: ys → ¬ EndsAlone id i (pre ++ xs) e) → m = 0) := by
  -- on the buffers in the middle, from the end
  induction mid using List.reverseRecOn generalizing post with
  | nil => exact ⟨0, by simpa using hk, fun _ => rfl⟩
  | append_singleton mid e ih =>
      have hrun' : PacketRun n i id ((pre ++ mid) ++ e :: post) := by simpa using hrun
      obtain ⟨m, hm, hzero⟩ := ih hrun'
      obtain ⟨halone, hnot⟩ := hrun'.announcements_concat hm
      rw [List.append_assoc] at halone hnot
      by_cases he : EndsAlone id i (pre ++ mid) e
      · exact ⟨m + 1, halone he, fun hall => absurd he (hall mid e [] rfl)⟩
      · refine ⟨m, hnot he, fun hall => hzero fun xs f ys hmid => ?_⟩
        exact hall xs f (ys ++ [e]) (by simp [hmid])

/-- The last END of the packet ends alone. -/
theorem PacketRun.endsAlone_last (hrun : PacketRun n i id (pre ++ e :: post)) (he : IsEnd id e)
    (hlast : ∀ f ∈ post, ¬ IsEnd id f) : EndsAlone id i pre e := by
  refine ⟨he, fun j hne hreceiving => ?_⟩
  obtain ⟨b, hb⟩ := List.exists_mem_of_ne_nil _ hreceiving.1
  have hmem (es : List (LogStream × TaggedAudioBuffer)) (b : TaggedAudioBuffer) :
      b ∈ packetBuffers id i j es ↔ (.processor i j, b) ∈ es ∧ b.packetId = id := by
    simp [packetBuffers]
  have hj : j ∈ receivers n i := by
    obtain ⟨hmem, hid⟩ := (hmem pre b).1 hb
    obtain ⟨j', hj', heq⟩ := hrun.only _ (List.mem_append_left _ hmem) rfl hid
    obtain rfl : j = j' := by simpa using heq
    exact hj'
  -- its END is still to come, so that this one is not the last
  obtain ⟨last, hin, hend⟩ := (hrun.whole j hj).exists_end
  obtain ⟨hin, hid⟩ := (hmem _ last).1 hin
  rcases List.mem_append.1 hin with hin | hin
  · exact hreceiving.2 last ((hmem pre last).2 ⟨hin, hid⟩) hend
  · rcases List.mem_cons.1 hin with rfl | hin
    · exact hne rfl
    · exact hlast _ hin ⟨rfl, hid, hend⟩

/-- If there is a receiver, the packet ends. -/
theorem PacketRun.exists_isEnd (hrun : PacketRun n i id es) (hne : receivers n i ≠ []) :
    ∃ e ∈ es, IsEnd id e := by
  obtain ⟨j, hj⟩ := List.exists_mem_of_ne_nil _ hne
  obtain ⟨b, hb, hend⟩ := (hrun.whole j hj).exists_end
  have hmem : (LogStream.processor i j, b) ∈ es ∧ b.packetId = id := by
    simpa [packetBuffers] using hb
  exact ⟨_, hmem.1, rfl, hmem.2, hend⟩

end Runs

/-! ### The announcement -/

/-- The logs of a packet are announced as closed once and at the last END iff there is a receiver
and at every END but the last the packet is being received by another receiver. -/
theorem closedOnce_iff_overlap (cfg : LoggerConfig) (n : ℕ) (i id : ℤ)
    (es : List (LogStream × TaggedAudioBuffer)) (hrun : PacketRun n i id es) :
    ClosedOnce cfg id i es ↔ Overlap n id i es := by
  constructor
  · rintro ⟨pre, e, post, rfl, he, hlast, hzero, -, -⟩
    refine ⟨?_, fun pre' e' post' heq he' hlater => ?_⟩
    · obtain ⟨j, hj, -⟩ := hrun.only e (by simp) he.1 he.2.1
      exact List.ne_nil_of_mem hj
    -- an earlier END that ends alone announces too early, and nothing is withdrawn
    · by_contra hnone
      have halone : EndsAlone id i pre' e' :=
        ⟨he', fun j hne hreceiving => hnone ⟨j, hne, hreceiving⟩⟩
      obtain ⟨mid, rfl⟩ := Run.exists_eq_append_of_last heq hlast he' hlater
      have hrun' : PacketRun n i id (pre' ++ e' :: (mid ++ e :: post)) := by simpa using hrun
      obtain ⟨l, hl, -⟩ := hrun'.exists_after cfg (List.prefix_append pre' _)
      have hone := (hrun'.announcements_concat (congrArg _ hl)).1 halone
      have hrun'' : PacketRun n i id ((pre' ++ [e']) ++ mid ++ e :: post) := by simpa using hrun
      obtain ⟨m, hm, -⟩ := hrun''.announcements_append hone
      have hpre : pre' ++ [e'] ++ mid = pre' ++ e' :: mid := by simp
      rw [hpre, hzero, Option.some_inj] at hm
      omega
  · rintro ⟨hne, hoverlap⟩
    obtain ⟨pre, e, post, rfl, he, hlast⟩ := Run.exists_last (hrun.exists_isEnd hne)
    have hinit : (after cfg []).map (announcements id i) = some 0 := rfl
    have hrun' : PacketRun n i id ([] ++ pre ++ e :: post) := hrun
    obtain ⟨m, hm, hzero⟩ := hrun'.announcements_append hinit
    -- before the last END, none ends alone
    obtain rfl : m = 0 := by
      refine hzero fun xs f ys hpre halone => ?_
      obtain ⟨j, hj, hreceiving⟩ := hoverlap xs f (ys ++ e :: post) (by simp [hpre]) halone.1
        ⟨e, by simp, he⟩
      exact halone.2 j hj hreceiving
    -- the last END does
    have hone := (hrun.announcements_concat hm).1 (hrun.endsAlone_last he hlast)
    refine ⟨pre, e, post, rfl, he, hlast, hm, hone, ?_⟩
    have hrun'' : PacketRun n i id ((pre ++ [e]) ++ post ++ []) := by simpa using hrun
    obtain ⟨m', hm', hzero'⟩ := hrun''.announcements_append hone
    -- after it there is no END
    obtain rfl : m' = 0 := hzero' fun xs f ys hpost halone =>
      hlast f (by simp [hpost]) halone.1
    simpa using hm'

/-- The first and the last buffer of packet 0 of modem 0. -/
def startAndEnd : TaggedAudioBuffer × TaggedAudioBuffer :=
  (⟨some ⟨0, 0, [.zero]⟩, .START, 0⟩, ⟨some ⟨1, 0, [.zero]⟩, .END, 0⟩)

/-- The packet 0 of modem 0 sent to modems 1 and 2, one after the other. -/
def oneByOne : List (LogStream × TaggedAudioBuffer) :=
  [(.processor 0 1, startAndEnd.1), (.processor 0 1, startAndEnd.2),
    (.processor 0 2, startAndEnd.1), (.processor 0 2, startAndEnd.2)]

/-- The packet 0 of modem 0 sent to modems 1 and 2 at the same time. -/
def sideBySide : List (LogStream × TaggedAudioBuffer) :=
  [(.processor 0 1, startAndEnd.1), (.processor 0 2, startAndEnd.1),
    (.processor 0 1, startAndEnd.2), (.processor 0 2, startAndEnd.2)]

private theorem packetRun_of_two {es : List (LogStream × TaggedAudioBuffer)}
    (hone : packetBuffers 0 0 1 es = [startAndEnd.1, startAndEnd.2])
    (htwo : packetBuffers 0 0 2 es = [startAndEnd.1, startAndEnd.2])
    (honly : ∀ e ∈ es, ∃ j ∈ receivers 3 0, e.1 = .processor 0 j)
    (haudio : ∀ e ∈ es, e.2.buffer.isSome) : PacketRun 3 0 0 es := by
  have hwhole : WholePacket [startAndEnd.1, startAndEnd.2] := ⟨_, [], _, rfl, rfl, rfl, by simp⟩
  have hreceivers : receivers 3 0 = [1, 2] := by decide
  refine ⟨fun j hj => ?_, fun e he _ _ => honly e he, haudio⟩
  rw [hreceivers, List.mem_pair] at hj
  rcases hj with rfl | rfl
  · exact hone ▸ hwhole
  · exact htwo ▸ hwhole

/-- The logs are announced as closed after the first receiver's END, and again after the
second's. -/
theorem not_closedOnce_of_oneByOne :
    PacketRun 3 0 0 oneByOne ∧ ¬ ClosedOnce { startTime := "" } 0 0 oneByOne := by
  refine ⟨packetRun_of_two (by decide +kernel) (by decide +kernel) (by decide +kernel)
    (by decide +kernel), ?_⟩
  rintro ⟨_, _, _, -, -, -, -, -, hone⟩
  have htwo : (after { startTime := "" } oneByOne).map (announcements 0 0) = some 2 := by
    decide +kernel
  rw [htwo] at hone
  cases hone

/-- Two receivers whose streams overlap. -/
theorem closedOnce_of_sideBySide : ClosedOnce { startTime := "" } 0 0 sideBySide := by
  have hrun : PacketRun 3 0 0 sideBySide := packetRun_of_two (by decide +kernel)
    (by decide +kernel) (by decide +kernel) (by decide +kernel)
  refine (closedOnce_iff_overlap { startTime := "" } 3 0 0 sideBySide hrun).2
    ⟨by decide, fun pre e post heq he hlater => ⟨2, ?_⟩⟩
  -- the only END with a later one is the third buffer
  rcases pre with _ | ⟨e₁, _ | ⟨e₂, _ | ⟨e₃, pre⟩⟩⟩
  · cases heq
    exact absurd he (by decide)
  · cases heq
    exact absurd he (by decide)
  · cases heq
    exact ⟨by decide, by decide, by decide⟩
  · simp only [sideBySide, List.cons_append, List.cons.injEq] at heq
    obtain ⟨-, -, -, heq⟩ := heq
    rw [List.singleton_eq_append_iff] at heq
    simp at heq
    obtain ⟨f, hf, -⟩ := hlater
    simp [heq] at hf

end LoggerThread

end Netsim
