import Netsim.Core.PacketStream
import Netsim.Logger.Model

/-!
# What the log files hold

Every stream is logged to one file per packet. As long as no packet starts at a key of `files_`
whose file is still open (`KeyFree`), the file of every packet of every stream holds the start
time of the packet followed by the samples of its buffers, and nothing else
(`exists_after_filesHoldPackets`).

The open files are keyed by direction, packet id and one modem index. For OUT streams that is the
receiver, and the packet ids count per transmitter, so packets of two transmitters can meet at
one key: then the second START replaces the first file
(`not_filesHoldPackets_of_two_transmitters`).
-/

namespace Netsim

namespace LoggerThread

/-- The buffers of one stream. -/
def streamBuffers (σ : LogStream) (es : List (LogStream × TaggedAudioBuffer)) :
    List TaggedAudioBuffer :=
  (es.filter fun e => e.1 = σ).map (·.2)

/-- What the file of a packet should hold. -/
def packetItems (p : TaggedAudioBuffer × List TaggedAudioBuffer) : List LogItem :=
  p.1.buffer.toList.map (fun audio => .time audio.bufferStartTime) ++
    (p.1 :: p.2).flatMap fun b => b.buffer.toList.flatMap fun audio => audio.samples.map .sample

/-- The file of every packet holds exactly its own packet. -/
def FilesHoldPackets (es : List (LogStream × TaggedAudioBuffer)) (l : LoggerThread) : Prop :=
  ∀ σ, ∀ p ∈ packetsOf (streamBuffers σ es), l.disk (σ.file p.1.packetId) = some (packetItems p)

/-- What the streams of a logger look like: packets one at a time on each stream, counted by
their ids, and no null audio. -/
structure ProperStreams (es : List (LogStream × TaggedAudioBuffer)) : Prop where
  /-- Each stream is well framed. -/
  framed : ∀ σ, WellFramed (streamBuffers σ es)
  /-- The packets of one stream have different ids. -/
  ids : ∀ σ, ((packetsOf (streamBuffers σ es)).map (·.1.packetId)).Nodup
  /-- Every buffer holds audio. -/
  audio : ∀ e ∈ es, e.2.buffer.isSome

/-- No file is open at the key at which this buffer starts an OUT packet. -/
def KeyFree (l : LoggerThread) (e : LogStream × TaggedAudioBuffer) : Prop :=
  e.1.dir = .OUT → e.2.marker = .START → l.openAt .OUT e.2.packetId e.1.modemIndex = none

instance (l : LoggerThread) (e : LogStream × TaggedAudioBuffer) : Decidable (KeyFree l e) :=
  inferInstanceAs (Decidable (_ → _ → _))

section Streams

variable {es : List (LogStream × TaggedAudioBuffer)} {σ τ : LogStream} {b : TaggedAudioBuffer}

@[simp]
theorem streamBuffers_concat_self :
    streamBuffers σ (es ++ [(σ, b)]) = streamBuffers σ es ++ [b] := by
  simp [streamBuffers]

theorem streamBuffers_concat_of_ne (h : τ ≠ σ) :
    streamBuffers σ (es ++ [(τ, b)]) = streamBuffers σ es := by
  simp [streamBuffers, h]

/-- The ids of a stream's packets only grow in number. -/
theorem ids_packetsOf_concat (bs : List TaggedAudioBuffer) (b : TaggedAudioBuffer) :
    (packetsOf bs).map (·.1.packetId) <+: (packetsOf (bs ++ [b])).map (·.1.packetId) := by
  by_cases hb : b.marker = .START
  · rw [packetsOf_concat_start bs hb, List.map_append]
    exact List.prefix_append _ _
  -- a buffer that is no START joins the last packet, if there is one
  · rcases List.eq_nil_or_concat (packetsOf bs) with hbs | ⟨packets, p, hbs⟩
    · rw [hbs]
      exact List.nil_prefix
    · rw [List.concat_eq_append] at hbs
      rw [packetsOf_concat_of_ne_start hb hbs, hbs, List.map_append, List.map_append]
      exact List.prefix_rfl

theorem ProperStreams.of_concat {e : LogStream × TaggedAudioBuffer}
    (h : ProperStreams (es ++ [e])) : ProperStreams es where
  framed τ := by
    have := h.framed τ
    by_cases hτ : e.1 = τ
    · obtain ⟨σ, b⟩ := e
      subst hτ
      rw [streamBuffers_concat_self] at this
      exact this.of_append
    · rwa [streamBuffers_concat_of_ne hτ] at this
  ids τ := by
    have := h.ids τ
    by_cases hτ : e.1 = τ
    · obtain ⟨σ, b⟩ := e
      subst hτ
      rw [streamBuffers_concat_self] at this
      exact (ids_packetsOf_concat _ b).sublist.nodup this
    · rwa [streamBuffers_concat_of_ne hτ] at this
  audio e' he' := h.audio e' (List.mem_append_left _ he')

end Streams

/-! ### The invariant -/

/-- The files hold their packets, and the files that are open are those of the open packets. -/
structure Inv (es : List (LogStream × TaggedAudioBuffer)) (l : LoggerThread) : Prop where
  holds : FilesHoldPackets es l
  opened : ∀ σ id, openAfter (streamBuffers σ es) = some (some id) →
    l.openAt σ.dir id σ.modemIndex = some (σ.file id)
  owned : ∀ dir id modemIndex file, l.openAt dir id modemIndex = some file →
    ∃ σ, σ.dir = dir ∧ σ.modemIndex = modemIndex ∧ file = σ.file id ∧
      openAfter (streamBuffers σ es) = some (some id)

theorem inv_init : Inv [] {} where
  holds σ p hp := by simp [streamBuffers, packetsOf] at hp
  opened σ id h := by simp [streamBuffers, openAfter] at h
  owned dir id modemIndex file h := by simp [openAt] at h

section Steps

variable {cfg : LoggerConfig} {es : List (LogStream × TaggedAudioBuffer)} {l : LoggerThread}
  {σ τ : LogStream} {b : TaggedAudioBuffer}

/-- A START of a well-framed stream comes between its packets, other buffers inside one. -/
theorem nextOpen_eq_some {o o' : Option ℤ} (h : nextOpen o b = some o') :
    (b.marker = .START ∧ o = none ∧ o' = some b.packetId) ∨
      (b.marker ≠ .START ∧ o = some b.packetId ∧
        o' = if b.marker = .END then none else some b.packetId) := by
  -- by whether the stream is inside a packet
  cases o with
  | none =>
      simp only [nextOpen, Option.ite_none_right_eq_some, Option.some.injEq] at h
      exact .inl ⟨h.1, rfl, h.2.symm⟩
  | some id =>
      simp only [nextOpen, Option.ite_none_right_eq_some, Option.some.injEq] at h
      obtain ⟨⟨hb, rfl⟩, rfl⟩ := h
      exact .inr ⟨hb, rfl, rfl⟩

/-- No file is open at the key of a packet that starts: for an IN stream because the key is the
stream's own. -/
theorem Inv.openAt_eq_none (h : Inv es l) (hfree : KeyFree l (σ, b)) (hb : b.marker = .START)
    (hout : openAfter (streamBuffers σ es) = some none) :
    l.openAt σ.dir b.packetId σ.modemIndex = none := by
  cases hdir : σ.dir with
  | OUT => exact hfree hdir hb
  | IN =>
      -- an open file belongs to a stream inside a packet, and its key names that stream
      cases hopen : l.openAt .IN b.packetId σ.modemIndex with
      | none => rfl
      | some file =>
          obtain ⟨τ, hτdir, hτindex, -, hτopen⟩ := h.owned _ _ _ _ hopen
          have hστ : σ = τ := by
            cases σ <;> cases τ <;> simp_all [LogStream.dir, LogStream.modemIndex]
          subst hστ
          simp [hout] at hτopen

/-- The effect of a START buffer on the open files and on what they hold. -/
theorem exists_receive_start (cfg : LoggerConfig) (l : LoggerThread) {audio : AudioBuffer}
    (hb : b.marker = .START) (haudio : b.buffer = some audio) :
    ∃ l', LoggerThread.receive cfg l (σ, b) = some l' ∧
      (∀ dir id modemIndex, l'.openAt dir id modemIndex =
        if dir = σ.dir ∧ id = b.packetId ∧ modemIndex = σ.modemIndex
        then some (σ.file b.packetId) else l.openAt dir id modemIndex) ∧
      ∀ file, l'.disk file = if file = σ.file b.packetId
        then some (.time audio.bufferStartTime :: audio.samples.map .sample) else l.disk file := by
  refine ⟨_, receive_start hb haudio, ?_, ?_⟩
  · intro dir id modemIndex
    have hkey : (σ.file b.packetId).dir = σ.dir ∧ (σ.file b.packetId).packetId = b.packetId := by
      cases σ <;> exact ⟨rfl, rfl⟩
    -- IN also announces the packet, which touches no file
    cases hdir : σ.dir <;>
      simp [openAt_openFile, hkey, hdir]
  · intro file
    by_cases hfile : file = σ.file b.packetId <;>
      cases hdir : σ.dir <;> simp [disk_openFile, hfile]

/-- The effect of another buffer of an open packet: it is appended to the file, which END closes as
well. -/
theorem exists_receive_of_open (cfg : LoggerConfig) {audio : AudioBuffer} (hb : b.marker ≠ .START)
    (haudio : b.buffer = some audio)
    (hopened : l.openAt σ.dir b.packetId σ.modemIndex = some (σ.file b.packetId)) :
    ∃ l', LoggerThread.receive cfg l (σ, b) = some l' ∧
      (∀ dir id modemIndex, l'.openAt dir id modemIndex =
        if b.marker = .END ∧ dir = σ.dir ∧ id = b.packetId ∧ modemIndex = σ.modemIndex
        then none else l.openAt dir id modemIndex) ∧
      ∀ file, l'.disk file = if file = σ.file b.packetId
        then (l.disk file).map (· ++ audio.samples.map .sample) else l.disk file := by
  refine ⟨_, receive_of_openAt cfg hb haudio hopened, ?_, ?_⟩
  · intro dir id modemIndex
    by_cases hend : b.marker = .END <;> simp [hend, openAt_closeFile]
  · intro file
    by_cases hend : b.marker = .END <;> by_cases hfile : file = σ.file b.packetId <;>
      simp [hend, hfile]

/-- A step that writes to the file of one packet leaves those of all other packets alone. -/
theorem FilesHoldPackets.of_other {l' : LoggerThread} (h : FilesHoldPackets es l)
    (hdisk : ∀ file, file ≠ σ.file b.packetId → l'.disk file = l.disk file)
    {p : TaggedAudioBuffer × List TaggedAudioBuffer} (hp : p ∈ packetsOf (streamBuffers τ es))
    (hne : ¬ (τ = σ ∧ p.1.packetId = b.packetId)) :
    l'.disk (τ.file p.1.packetId) = some (packetItems p) := by
  rw [hdisk _ fun heq => hne (LogStream.file_inj.1 heq)]
  exact h τ p hp

/-- A buffer that makes or extends the last packet of its stream, and the file of that packet, keeps
all packets in their files. -/
theorem FilesHoldPackets.concat {l' : LoggerThread} (h : FilesHoldPackets es l)
    (hproper : ProperStreams (es ++ [(σ, b)]))
    (hdisk : ∀ file, file ≠ σ.file b.packetId → l'.disk file = l.disk file)
    {packets : List (TaggedAudioBuffer × List TaggedAudioBuffer)}
    {last : TaggedAudioBuffer × List TaggedAudioBuffer}
    (hpackets : packetsOf (streamBuffers σ es ++ [b]) = packets ++ [last])
    (hearlier : ∀ p ∈ packets, p ∈ packetsOf (streamBuffers σ es))
    (hid : last.1.packetId = b.packetId)
    (hlast : l'.disk (σ.file b.packetId) = some (packetItems last)) :
    FilesHoldPackets (es ++ [(σ, b)]) l' := by
  intro τ p hp
  by_cases hτ : σ = τ
  · subst hτ
    have hids := hproper.ids σ
    rw [streamBuffers_concat_self, hpackets] at hp hids
    rcases List.mem_append.1 hp with hp | hp
    · -- an earlier packet of the stream has another id, so another file
      have hne : p.1.packetId ≠ b.packetId := by
        rw [List.map_append, List.nodup_append] at hids
        rw [← hid]
        exact hids.2.2 _ (List.mem_map_of_mem hp) _ (by simp)
      exact h.of_other hdisk (hearlier p hp) fun hsame => hne hsame.2
    · obtain rfl := List.mem_singleton.1 hp
      rwa [hid]
  · rw [streamBuffers_concat_of_ne hτ] at hp
    exact h.of_other hdisk hp fun hsame => hτ hsame.1.symm

/-- A START buffer keeps the invariant. -/
theorem Inv.receive_start (h : Inv es l) (hproper : ProperStreams (es ++ [(σ, b)]))
    (hfree : KeyFree l (σ, b)) (hb : b.marker = .START)
    (hout : openAfter (streamBuffers σ es) = some none) :
    ∃ l', LoggerThread.receive cfg l (σ, b) = some l' ∧ Inv (es ++ [(σ, b)]) l' := by
  obtain ⟨audio, haudio⟩ : ∃ audio, b.buffer = some audio :=
    Option.isSome_iff_exists.1 (hproper.audio (σ, b) (by simp))
  obtain ⟨l', hreceive, hopenAt, hdisk⟩ := exists_receive_start cfg l hb haudio
  have hnone := h.openAt_eq_none hfree hb hout
  have hafter : openAfter (streamBuffers σ es ++ [b]) = some (some b.packetId) := by
    simp [openAfter_concat, hout, nextOpen, hb]
  have hdisk_ne : ∀ file, file ≠ σ.file b.packetId → l'.disk file = l.disk file :=
    fun file hfile => by rw [hdisk, if_neg hfile]
  refine ⟨l', hreceive, ?_, ?_, ?_⟩
  -- the packets: only the new one has another content than before
  · refine h.holds.concat hproper hdisk_ne (packetsOf_concat_start _ hb) (fun _ hp => hp) rfl ?_
    rw [hdisk, if_pos rfl]
    simp [packetItems, haudio]
  -- the open packets: the key of another one is not the key that is overwritten
  · intro τ id hτopen
    rw [hopenAt]
    by_cases hτ : σ = τ
    · subst hτ
      rw [streamBuffers_concat_self, hafter] at hτopen
      obtain rfl : b.packetId = id := by simpa using hτopen
      simp
    · rw [streamBuffers_concat_of_ne hτ] at hτopen
      have hopen := h.opened τ id hτopen
      rw [if_neg, hopen]
      rintro ⟨hdir, rfl, hindex⟩
      rw [hdir, hindex, hnone] at hopen
      cases hopen
  -- the open files: the new one, or one that was open before
  · intro dir id modemIndex file hopen
    rw [hopenAt] at hopen
    split_ifs at hopen with hkey
    · obtain ⟨rfl, rfl, rfl⟩ := hkey
      exact ⟨σ, rfl, rfl, (Option.some.inj hopen).symm, by rw [streamBuffers_concat_self, hafter]⟩
    · obtain ⟨τ, hdir, hindex, hfile, hτopen⟩ := h.owned _ _ _ _ hopen
      refine ⟨τ, hdir, hindex, hfile, ?_⟩
      have hτ : σ ≠ τ := by
        rintro rfl
        simp [hout] at hτopen
      rwa [streamBuffers_concat_of_ne hτ]

/-- A buffer of an open packet keeps the invariant. -/
theorem Inv.receive_of_open (h : Inv es l) (hproper : ProperStreams (es ++ [(σ, b)]))
    (hb : b.marker ≠ .START)
    (hin : openAfter (streamBuffers σ es) = some (some b.packetId)) :
    ∃ l', LoggerThread.receive cfg l (σ, b) = some l' ∧ Inv (es ++ [(σ, b)]) l' := by
  obtain ⟨audio, haudio⟩ : ∃ audio, b.buffer = some audio :=
    Option.isSome_iff_exists.1 (hproper.audio (σ, b) (by simp))
  have hopened := h.opened σ _ hin
  have hafter : openAfter (streamBuffers σ es ++ [b]) =
      some (if b.marker = .END then none else some b.packetId) := by
    simp [openAfter_concat, hin, nextOpen, hb]
  obtain ⟨packets, p, hpackets, hpid⟩ := exists_packetsOf_of_openAfter hin
  obtain ⟨l', hreceive, hopenAt, hdisk⟩ := exists_receive_of_open cfg hb haudio hopened
  have hdisk_ne : ∀ file, file ≠ σ.file b.packetId → l'.disk file = l.disk file :=
    fun file hfile => by rw [hdisk, if_neg hfile]
  refine ⟨l', hreceive, ?_, ?_, ?_⟩
  -- the packets: the open one is the last one, and grows by the buffer as its file does
  · refine h.holds.concat hproper hdisk_ne (packetsOf_concat_of_ne_start hb hpackets)
      (fun _ hq => by simp [hpackets, hq]) hpid ?_
    have hholds := h.holds σ p (by simp [hpackets])
    rw [hpid] at hholds
    rw [hdisk, if_pos rfl, hholds]
    simp [packetItems, haudio]
  · intro τ id hτopen
    rw [hopenAt]
    by_cases hτ : σ = τ
    · subst hτ
      rw [streamBuffers_concat_self, hafter] at hτopen
      simp only [Option.some.injEq, Option.ite_none_left_eq_some] at hτopen
      obtain ⟨hend, rfl⟩ := hτopen
      rw [if_neg fun hkey => hend hkey.1, hopened]
    · rw [streamBuffers_concat_of_ne hτ] at hτopen
      have hopen := h.opened τ id hτopen
      rw [if_neg, hopen]
      -- a second stream open at the key would have the same file
      rintro ⟨-, hdir, rfl, hindex⟩
      rw [hdir, hindex, hopened, Option.some.injEq, LogStream.file_inj] at hopen
      exact hτ hopen.1
  · intro dir id modemIndex file hopen
    rw [hopenAt] at hopen
    -- the key that END closes has no open file any more
    split_ifs at hopen with hkey
    obtain ⟨τ, hdir, hindex, hfile, hτopen⟩ := h.owned _ _ _ _ hopen
    refine ⟨τ, hdir, hindex, hfile, ?_⟩
    by_cases hτ : σ = τ
    · subst hτ
      rw [hin, Option.some.injEq, Option.some.injEq] at hτopen
      subst hτopen
      rw [streamBuffers_concat_self, hafter,
        if_neg fun hend => hkey ⟨hend, hdir.symm, rfl, hindex.symm⟩]
    · rwa [streamBuffers_concat_of_ne hτ]

/-- Every buffer of the streams keeps the invariant. -/
theorem Inv.receive (h : Inv es l) (hproper : ProperStreams (es ++ [(σ, b)]))
    (hfree : KeyFree l (σ, b)) :
    ∃ l', LoggerThread.receive cfg l (σ, b) = some l' ∧ Inv (es ++ [(σ, b)]) l' := by
  have hframed := hproper.framed σ
  rw [streamBuffers_concat_self, WellFramed, openAfter_concat] at hframed
  obtain ⟨o', ho'⟩ := Option.isSome_iff_exists.1 hframed
  rw [Option.bind_eq_some_iff] at ho'
  obtain ⟨o, ho, hnext⟩ := ho'
  -- the framing decides between the two cases
  rcases nextOpen_eq_some hnext with ⟨hb, rfl, -⟩ | ⟨hb, rfl, -⟩
  · exact h.receive_start hproper hfree hb ho
  · exact h.receive_of_open hproper hb ho

end Steps

/-- As long as no packet starts at a key whose file is open, the logger goes on and the file of
every packet of every stream holds exactly its own packet. -/
theorem exists_after_filesHoldPackets (cfg : LoggerConfig)
    (es : List (LogStream × TaggedAudioBuffer)) (hproper : ProperStreams es)
    (hfree : Run.ExecAlways (receive cfg) {} KeyFree es) :
    ∃ l, after cfg es = some l ∧ FilesHoldPackets es l := by
  obtain ⟨l, hl, hinv⟩ := Run.exec_induction (receive cfg) {} (P := ProperStreams) (I := Inv)
    (fun _ _ => ProperStreams.of_concat) inv_init
    (fun _ _ _ hP hI hG => hI.receive hP hG) es hproper hfree
  exact ⟨l, hl, hinv.holds⟩

/-- In every such run that is given, the files hold their packets. -/
theorem filesHoldPackets_of_after {cfg : LoggerConfig} {es : List (LogStream × TaggedAudioBuffer)}
    {l : LoggerThread} (hproper : ProperStreams es)
    (hfree : Run.ExecAlways (receive cfg) {} KeyFree es) (h : after cfg es = some l) :
    FilesHoldPackets es l := by
  obtain ⟨l', hl', hinv⟩ := Run.exec_induction (receive cfg) {} (P := ProperStreams) (I := Inv)
    (fun _ _ => ProperStreams.of_concat) inv_init
    (fun _ _ _ hP hI hG => hI.receive hP hG) es hproper hfree
  rw [after, hl', Option.some_inj] at h
  exact h ▸ hinv.holds

/-- A buffer of one sample. -/
def oneSample (negative : Bool) (marker : Marker) : TaggedAudioBuffer :=
  { buffer := some ⟨0, 0, [.ofFields negative 127 0]⟩, marker := marker, packetId := 0 }

/-- Modems 0 and 1 transmit their first packets to modem 2, overlapping. -/
def twoTransmitters : List (LogStream × TaggedAudioBuffer) :=
  [(.processor 0 2, oneSample false .START), (.processor 1 2, oneSample true .START),
    (.processor 0 2, oneSample false .END), (.processor 1 2, oneSample true .END)]

/-- The run of `twoTransmitters`, but modem 1 transmits to modem 0. -/
def twoReceivers : List (LogStream × TaggedAudioBuffer) :=
  [(.processor 0 2, oneSample false .START), (.processor 1 0, oneSample true .START),
    (.processor 0 2, oneSample false .END), (.processor 1 0, oneSample true .END)]

/-- Two streams of one packet each are proper. -/
private theorem properStreams_of_two {es : List (LogStream × TaggedAudioBuffer)} {σ τ : LogStream}
    (hes : ∀ e ∈ es, e.1 = σ ∨ e.1 = τ)
    (hσ : streamBuffers σ es = [oneSample false .START, oneSample false .END])
    (hτ : streamBuffers τ es = [oneSample true .START, oneSample true .END])
    (haudio : ∀ e ∈ es, e.2.buffer.isSome) : ProperStreams es := by
  -- a third stream carries nothing
  have hstreams : ∀ ρ, streamBuffers ρ es = [oneSample false .START, oneSample false .END] ∨
      streamBuffers ρ es = [oneSample true .START, oneSample true .END] ∨
      streamBuffers ρ es = [] := by
    intro ρ
    by_cases hρσ : ρ = σ
    · exact .inl (hρσ ▸ hσ)
    · by_cases hρτ : ρ = τ
      · exact .inr (.inl (hρτ ▸ hτ))
      · refine .inr (.inr ?_)
        simp only [streamBuffers, List.map_eq_nil_iff, List.filter_eq_nil_iff, decide_eq_true_eq]
        intro e he heq
        rcases hes e he with h | h
        · exact hρσ (heq.symm.trans h)
        · exact hρτ (heq.symm.trans h)
  refine ⟨fun ρ => ?_, fun ρ => ?_, haudio⟩
  · rcases hstreams ρ with h | h | h <;> rw [h] <;> decide +kernel
  · rcases hstreams ρ with h | h | h <;> rw [h] <;> decide +kernel

/-- The END of the first transmitter's packet goes to the second one's file, and the END of the
second one's is lost. -/
theorem not_filesHoldPackets_of_two_transmitters :
    ProperStreams twoTransmitters ∧
      ∃ l, after { startTime := "" } twoTransmitters = some l ∧
        ¬ FilesHoldPackets twoTransmitters l := by
  refine ⟨properStreams_of_two (σ := .processor 0 2) (τ := .processor 1 2)
    (by decide +kernel) (by decide +kernel) (by decide +kernel) (by decide +kernel), ?_⟩
  -- the file of 0 to 2 misses the sample of its END
  have hdisk : (after { startTime := "" } twoTransmitters).map
      (·.disk (LogStream.file (.processor 0 2) 0)) =
        some (some [.time 0, .sample (.ofFields false 127 0)]) := by
    decide +kernel
  obtain ⟨l, hl, hfile⟩ := Option.map_eq_some_iff.1 hdisk
  refine ⟨l, hl, fun hholds => ?_⟩
  have hpacket := hholds (.processor 0 2) (oneSample false .START, [oneSample false .END])
    (by decide +kernel)
  rw [show (oneSample false .START).packetId = 0 from rfl, hfile] at hpacket
  exact absurd hpacket (by decide +kernel)

/-- Two overlapping packets to different receivers are logged in full. -/
theorem filesHoldPackets_of_two_receivers :
    ∃ l, after { startTime := "" } twoReceivers = some l ∧ FilesHoldPackets twoReceivers l :=
  exists_after_filesHoldPackets _ _
    (properStreams_of_two (σ := .processor 0 2) (τ := .processor 1 0)
      (by decide +kernel) (by decide +kernel) (by decide +kernel) (by decide +kernel))
    (Run.execAlways_of_check _ _ (by decide +kernel))

end LoggerThread

end Netsim
