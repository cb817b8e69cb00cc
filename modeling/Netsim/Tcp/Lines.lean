import Netsim.Tcp.Session

/-!
# Lines read by a session

However a byte stream is cut into chunks, a session reads its complete lines one by one and keeps
the incomplete rest, if every line has the two delimiters the read handler looks for
(`confined_iff_fieldsOnLine`). A line with one delimiter or none is read into what follows it, as
far as that has arrived; only a line without any delimiter that ends the stream does no harm.
-/

namespace Netsim

namespace TcpSession

variable {κ : Type} (decode : Bytes → Bytes)

/-- The fields of a line on its own: before the second `|` and after it. -/
def lineFields (line : Bytes) : Bytes × Bytes :=
  match Delimited.splitFirst delimiter line with
  | none => ([], [])
  | some (_, tail) =>
      match Delimited.splitFirst delimiter tail with
      | none => (tail, [])
      | some (pbName, pbDataB64) => (pbName, pbDataB64)

/-- What a line on its own is dispatched as. -/
def parseLine (line : Bytes) : Bytes × Bytes := ((lineFields line).1, decode (lineFields line).2)

/-- However the stream is cut, its complete lines are dispatched one by one, and the rest stays in
the buffer. -/
def Confined (rxCallbacks : List (Bytes × κ)) (rxAll : List κ) (stream : Bytes) : Prop :=
  ∀ chunks : List Bytes, chunks.flatten = stream →
    let s := afterChunks decode { rxCallbacks := rxCallbacks, rxAll := rxAll } chunks
    s.dispatched = (Delimited.records endOfLine stream).map (parseLine decode) ∧
      s.buffer = Delimited.rest endOfLine stream

/-- Every complete line has at least two `|`, except that the last one may have none if the stream
ends with it. -/
def FieldsOnLine (stream : Bytes) : Prop :=
  ∀ before line later, Delimited.records endOfLine stream = before ++ line :: later →
    2 ≤ line.count delimiter ∨
      delimiter ∉ line ∧ later = [] ∧ Delimited.rest endOfLine stream = []

/-! ### Lines with their fields -/

section FieldsOnLine

variable {xs ys line more : Bytes}

theorem fieldsOnLine_of_not_mem (h : endOfLine ∉ xs) : FieldsOnLine xs := by
  intro before line later heq
  rw [Delimited.records_of_not_mem h] at heq
  simp at heq

/-- A stream is empty iff it has neither lines nor a rest. -/
theorem eq_nil_iff : xs = [] ↔
    Delimited.records endOfLine xs = [] ∧ Delimited.rest endOfLine xs = [] := by
  constructor
  · rintro rfl
    exact ⟨Delimited.records_nil, Delimited.rest_nil⟩
  · rintro ⟨hrecords, hrest⟩
    have hcount : xs.count endOfLine = 0 := by
      rw [← Delimited.length_records, hrecords, List.length_nil]
    rwa [Delimited.rest_of_not_mem (List.count_eq_zero.1 hcount)] at hrest

/-- The condition line by line. -/
theorem fieldsOnLine_line (hline : endOfLine ∉ line) :
    FieldsOnLine (line ++ endOfLine :: more) ↔
      (2 ≤ line.count delimiter ∨ delimiter ∉ line ∧ more = []) ∧ FieldsOnLine more := by
  have hmore : more = [] ↔ Delimited.records endOfLine more = [] ∧
      Delimited.rest endOfLine more = [] := eq_nil_iff
  unfold FieldsOnLine
  rw [Delimited.records_record hline, Delimited.rest_record hline, hmore]
  exact Delimited.forall_append_cons_cons (R := fun (line : Bytes) later =>
    2 ≤ line.count delimiter ∨ delimiter ∉ line ∧ later = [] ∧ Delimited.rest endOfLine more = [])

/-- A prefix of a stream meets the condition. -/
theorem FieldsOnLine.of_append (h : FieldsOnLine (xs ++ ys)) : FieldsOnLine xs := by
  intro before line later heq
  rcases h before line (later ++ Delimited.records endOfLine (Delimited.rest endOfLine xs ++ ys))
    (by rw [Delimited.records_append, heq]; simp) with htwo | ⟨hnone, hlater, hrest⟩
  · exact .inl htwo
  -- a last line of the stream that lies in the prefix ends the prefix
  · obtain ⟨rfl, hrecords⟩ := List.append_eq_nil_iff.1 hlater
    rw [Delimited.rest_append] at hrest
    exact .inr ⟨hnone, rfl, (List.append_eq_nil_iff.1 (eq_nil_iff.2 ⟨hrecords, hrest⟩)).1⟩

/-- What is left after some lines of a stream meets the condition. -/
theorem FieldsOnLine.of_rest (h : FieldsOnLine (xs ++ ys)) :
    FieldsOnLine (Delimited.rest endOfLine xs ++ ys) := by
  intro before line later heq
  have hline := h (Delimited.records endOfLine xs ++ before) line later
    (by rw [Delimited.records_append, heq, List.append_assoc])
  rwa [Delimited.rest_append] at hline

end FieldsOnLine

/-! ### One line -/

section Line

variable {line more pre name data : Bytes}

/-- A line with two delimiters, and its fields. -/
theorem exists_fields (h : 2 ≤ line.count delimiter) :
    ∃ pre name data, line = pre ++ delimiter :: (name ++ delimiter :: data) ∧
      delimiter ∉ pre ∧ delimiter ∉ name ∧ lineFields line = (name, data) := by
  obtain ⟨pre, tail, rfl, hpre⟩ := List.eq_append_cons_of_mem
    (List.count_pos_iff.1 (Nat.lt_of_lt_of_le Nat.zero_lt_two h))
  -- one `|` ends the preamble, the other stands after it
  have htail : delimiter ∈ tail := by
    rw [← List.count_pos_iff]
    simp only [List.count_append, List.count_eq_zero_of_not_mem hpre, List.count_cons_self] at h
    omega
  obtain ⟨name, data, rfl, hname⟩ := List.eq_append_cons_of_mem htail
  refine ⟨pre, name, data, rfl, hpre, hname, ?_⟩
  simp only [lineFields, Delimited.splitFirst_record delimiter hpre,
    Delimited.splitFirst_record delimiter hname]

/-- A line with one delimiter. -/
theorem exists_of_one (hmem : delimiter ∈ line) (hone : line.count delimiter < 2) :
    ∃ pre name, line = pre ++ delimiter :: name ∧ delimiter ∉ pre ∧ delimiter ∉ name := by
  obtain ⟨pre, name, rfl, hpre⟩ := List.eq_append_cons_of_mem hmem
  refine ⟨pre, name, rfl, hpre, ?_⟩
  rw [← List.count_eq_zero]
  simp only [List.count_append, List.count_cons_self] at hone
  omega

/-- A line with its two delimiters, and a line without any at the end of the buffer, are read on
their own. -/
theorem readFields_of_fields (more : Bytes) (hline : endOfLine ∉ line)
    (h : 2 ≤ line.count delimiter ∨ delimiter ∉ line ∧ more = []) :
    (readFields (line ++ endOfLine :: more)).2 =
      ((lineFields line).1, (lineFields line).2, more) := by
  rcases h with htwo | ⟨hnone, rfl⟩
  · obtain ⟨pre, name, data, rfl, hpre, hname, hfields⟩ := exists_fields htwo
    have hdata : endOfLine ∉ data := fun h => hline (by simp [h])
    have hread := readFields_line hpre hname hdata more
    rw [hfields]
    simpa using congrArg Prod.snd hread
  -- no `|` at all: the whole buffer is the preamble
  · have hbuffer : delimiter ∉ line ++ [endOfLine] := by
      simp [hnone, delimiter_ne_endOfLine]
    rw [readFields_of_not_mem hbuffer, lineFields,
      (Delimited.splitFirst_eq_none_iff delimiter).2 hnone]

/-- The name that is read from a line with one delimiter runs over the end of the line. -/
theorem mem_name_of_one (hpre : delimiter ∉ pre) (hname : delimiter ∉ name) (more : Bytes) :
    endOfLine ∈ (readFields (pre ++ delimiter :: (name ++ endOfLine :: more))).2.1 := by
  -- the name ends at the next `|`, on whatever line that stands, or with the buffer
  by_cases hmore : delimiter ∈ more
  · obtain ⟨head, tail, rfl, hhead⟩ := List.eq_append_cons_of_mem hmore
    have hname' : delimiter ∉ name ++ endOfLine :: head := by
      simp [hname, hhead, delimiter_ne_endOfLine]
    have hsplit : pre ++ delimiter :: (name ++ endOfLine :: (head ++ delimiter :: tail)) =
        pre ++ delimiter :: ((name ++ endOfLine :: head) ++ delimiter :: tail) := by simp
    rw [hsplit]
    by_cases hend : endOfLine ∈ tail
    · obtain ⟨data, rest, rfl, hdata⟩ := List.eq_append_cons_of_mem hend
      rw [readFields_line hpre hname' hdata]
      simp
    · rw [readFields_two hpre hname' hend]
      simp
  · have hname' : delimiter ∉ name ++ endOfLine :: more := by
      simp [hname, hmore, delimiter_ne_endOfLine]
    rw [readFields_one hpre hname']
    simp

/-- So it is not the name the line has on its own. -/
theorem name_ne_of_one (more : Bytes) (hline : endOfLine ∉ line) (hmem : delimiter ∈ line)
    (hone : line.count delimiter < 2) :
    (readFields (line ++ endOfLine :: more)).2.1 ≠ (lineFields line).1 := by
  obtain ⟨pre, name, rfl, hpre, hname⟩ := exists_of_one hmem hone
  have hfields : (lineFields (pre ++ delimiter :: name)).1 = name := by
    simp only [lineFields, Delimited.splitFirst_record delimiter hpre,
      (Delimited.splitFirst_eq_none_iff delimiter).2 hname]
  have hover := mem_name_of_one hpre hname more
  intro heq
  rw [List.append_assoc, List.cons_append, hfields] at heq
  rw [heq] at hover
  exact hline (List.mem_append_right _ (List.mem_cons_of_mem _ hover))

/-- From a line without a delimiter the handler reads to the end of the buffer, or over the end of
another line. -/
theorem left_of_none (more : Bytes) (hline : delimiter ∉ line) (hend : endOfLine ∉ line) :
    (readFields (line ++ endOfLine :: more)).2.2.2 = [] ∨
      (readFields (line ++ endOfLine :: more)).2.2.2.count endOfLine <
        more.count endOfLine := by
  rcases readFields_cases (line ++ endOfLine :: more) with
    h | ⟨pre, name, heq, hpre, hname⟩ | ⟨pre, name, data, heq, hpre, hname, hdata⟩ |
      ⟨pre, name, data, left, heq, hpre, hname, hdata⟩
  · rw [readFields_of_not_mem h]
    exact .inl rfl
  · rw [heq, readFields_one hpre hname]
    exact .inl rfl
  · rw [heq, readFields_two hpre hname hdata]
    exact .inl rfl
  · refine .inr ?_
    have hcount := congrArg (List.count endOfLine) heq
    -- the first delimiter stands after the end of the line
    have hmem : endOfLine ∈ pre := by
      rcases Run.places heq with ⟨mid, rfl, -⟩ | ⟨-, hsame, -⟩ | ⟨mid, rfl, -⟩
      · simp
      · exact absurd hsame delimiter_ne_endOfLine.symm
      · simp at hline
    have hpos := List.count_pos_iff.2 hmem
    have hbar : (delimiter == endOfLine) = false := by decide
    simp only [List.count_append, List.count_cons, List.count_eq_zero_of_not_mem hend, hbar,
      beq_self_eq_true, if_true, Bool.false_eq_true, if_false] at hcount
    rw [heq, readFields_line hpre hname hdata]
    simp only
    omega

end Line

/-! ### The read loop -/

section ReadLoop

variable {decode} {s : TcpSession κ}

/-- The read loop, once. -/
theorem readLoop_succ_of_mem (fuel : ℕ) (h : endOfLine ∈ s.buffer) :
    readLoop decode (fuel + 1) s = readLoop decode fuel (s.handleRead decode) := by
  rw [readLoop, if_pos h]

theorem readLoop_of_not_mem (fuel : ℕ) (h : endOfLine ∉ s.buffer) :
    readLoop decode fuel s = s := by
  cases fuel with
  | zero => rfl
  | succ fuel => rw [readLoop, if_neg h]

variable (decode) in
/-- Induction over the handlers of a read loop: it ends when no complete line is left. -/
theorem readLoop_induction {motive : TcpSession κ → TcpSession κ → Prop}
    (done : ∀ s, endOfLine ∉ s.buffer → motive s s)
    (read : ∀ s t, endOfLine ∈ s.buffer → motive (s.handleRead decode) t → motive s t)
    (fuel : ℕ) (s : TcpSession κ) (hfuel : s.buffer.length ≤ fuel) :
    motive s (readLoop decode fuel s) := by
  -- on the fuel; every line takes at least its newline out of the buffer
  induction fuel generalizing s with
  | zero =>
      have hnil : s.buffer = [] := List.length_eq_zero_iff.1 (Nat.le_zero.1 hfuel)
      exact done s (by simp [hnil])
  | succ fuel ih =>
      by_cases hmem : endOfLine ∈ s.buffer
      · have hlength : (s.handleRead decode).buffer.length < s.buffer.length :=
          length_readFields_lt hmem
        rw [readLoop_succ_of_mem fuel hmem]
        exact read s _ hmem (ih _ (by omega))
      · rw [readLoop_of_not_mem _ hmem]
        exact done s hmem

@[simp]
theorem connected_readLoop (fuel : ℕ) : (readLoop decode fuel s).connected = s.connected := by
  induction fuel generalizing s with
  | zero => rfl
  | succ fuel ih =>
      rw [readLoop]
      split_ifs
      · exact ih
      · rfl

variable (decode) in
/-- Lines that have their fields are read one by one. -/
theorem readLoop_of_fieldsOnLine (fuel : ℕ) (hfuel : s.buffer.length ≤ fuel)
    (h : FieldsOnLine s.buffer) :
    (readLoop decode fuel s).dispatched =
        s.dispatched ++ (Delimited.records endOfLine s.buffer).map (parseLine decode) ∧
      (readLoop decode fuel s).buffer = Delimited.rest endOfLine s.buffer := by
  refine readLoop_induction decode (motive := fun s t => FieldsOnLine s.buffer →
    t.dispatched = s.dispatched ++ (Delimited.records endOfLine s.buffer).map (parseLine decode) ∧
      t.buffer = Delimited.rest endOfLine s.buffer)
    (fun s hmem _ => ?_) (fun s t hmem ih h => ?_) fuel s hfuel h
  · rw [Delimited.records_of_not_mem hmem, Delimited.rest_of_not_mem hmem]
    simp
  · obtain ⟨line, more, hbuffer, hline⟩ := List.eq_append_cons_of_mem hmem
    rw [hbuffer, fieldsOnLine_line hline] at h
    have hread := readFields_of_fields more hline h.1
    have hleft : (s.handleRead decode).buffer = more := by
      simp [handleRead, hbuffer, hread]
    have hdispatched : (s.handleRead decode).dispatched =
        s.dispatched ++ [parseLine decode line] := by
      simp [handleRead, hbuffer, hread, parseLine]
    obtain ⟨hall, hrest⟩ := ih (hleft ▸ h.2)
    rw [hall, hrest, hleft, hdispatched, hbuffer, Delimited.records_record hline,
      Delimited.rest_record hline]
    simp

variable (decode s) in
/-- There are at most as many dispatches as lines. -/
theorem exists_dispatched_readLoop (fuel : ℕ) :
    ∃ more, (readLoop decode fuel s).dispatched = s.dispatched ++ more ∧
      more.length ≤ s.buffer.count endOfLine := by
  induction fuel generalizing s with
  | zero => exact ⟨[], by simp [readLoop], by simp⟩
  | succ fuel ih =>
      by_cases hmem : endOfLine ∈ s.buffer
      · obtain ⟨more, hmore, hlength⟩ := ih (s := s.handleRead decode)
        have hlt := count_readFields_lt hmem
        -- one dispatch, and at least one newline less
        refine ⟨((readFields s.buffer).2.1, decode (readFields s.buffer).2.2.1) :: more, ?_, ?_⟩
        · rw [readLoop_succ_of_mem fuel hmem, hmore]
          simp [handleRead]
        · have hbuffer : (s.handleRead decode).buffer = (readFields s.buffer).2.2.2 := rfl
          rw [hbuffer] at hlength
          rw [List.length_cons]
          omega
      · exact ⟨[], by simp [readLoop_of_not_mem _ hmem], by simp⟩

/-- If the lines of a buffer were read one by one, they have their fields. -/
theorem fieldsOnLine_of_readLoop (fuel : ℕ) (hfuel : s.buffer.length ≤ fuel)
    (hdispatched : (readLoop decode fuel s).dispatched =
      s.dispatched ++ (Delimited.records endOfLine s.buffer).map (parseLine decode))
    (hrest : (readLoop decode fuel s).buffer = Delimited.rest endOfLine s.buffer) :
    FieldsOnLine s.buffer := by
  -- on the fuel; the first line has its fields, and so have those read after it
  induction fuel generalizing s with
  | zero =>
      have hnil : s.buffer = [] := List.length_eq_zero_iff.1 (Nat.le_zero.1 hfuel)
      exact fieldsOnLine_of_not_mem (by simp [hnil])
  | succ fuel ih =>
      by_cases hmem : endOfLine ∈ s.buffer
      swap
      · exact fieldsOnLine_of_not_mem hmem
      have hlength := length_readFields_lt hmem
      rw [readLoop_succ_of_mem fuel hmem] at hdispatched hrest
      obtain ⟨line, more, hbuffer, hline⟩ := List.eq_append_cons_of_mem hmem
      obtain ⟨others, hothers, hcount⟩ :=
        exists_dispatched_readLoop decode (s.handleRead decode) fuel
      rw [hbuffer, Delimited.records_record hline] at hdispatched
      rw [hbuffer, Delimited.rest_record hline] at hrest
      have hfirst : ((readFields s.buffer).2.1, decode (readFields s.buffer).2.2.1) :: others =
          parseLine decode line ::
            (Delimited.records endOfLine more).map (parseLine decode) := by
        rw [hothers] at hdispatched
        simpa [handleRead] using hdispatched
      obtain ⟨hone, hmore⟩ := List.cons_eq_cons.1 hfirst
      have hname : (readFields s.buffer).2.1 = (lineFields line).1 := congrArg Prod.fst hone
      rw [hbuffer, fieldsOnLine_line hline]
      by_cases htwo : 2 ≤ line.count delimiter
      · have hread := readFields_of_fields more hline (.inl htwo)
        have hleft : (s.handleRead decode).buffer = more := by
          simp [handleRead, hbuffer, hread]
        refine ⟨.inl htwo, hleft ▸ ih (s := s.handleRead decode) ?_ ?_ ?_⟩
        · exact Nat.le_of_lt_succ (Nat.lt_of_lt_of_le hlength hfuel)
        · rw [hothers, hmore, hleft]
        · rw [hrest, hleft]
      · by_cases hnone : delimiter ∈ line
        · rw [hbuffer] at hname
          exact absurd hname (name_ne_of_one more hline hnone (Nat.lt_of_not_le htwo))
        · -- no delimiter: another line, or the rest, would be swallowed
          have hleft : (s.handleRead decode).buffer = (readFields s.buffer).2.2.2 := rfl
          have hlines : more.count endOfLine = others.length := by
            rw [hmore, List.length_map, Delimited.length_records]
          have hmore_nil : more = [] := by
            rcases left_of_none more hnone hline with hnil | hlt
            · -- the handler read everything, so there are no more lines and no rest
              rw [← hbuffer, ← hleft] at hnil
              rw [readLoop_of_not_mem _ (by simp [hnil]), hnil] at hrest
              rw [hnil, List.count_nil, Nat.le_zero] at hcount
              rw [hcount, List.count_eq_zero] at hlines
              rwa [Delimited.rest_of_not_mem hlines, eq_comm] at hrest
            · -- too few newlines are left for the lines that were dispatched
              rw [← hbuffer, ← hleft] at hlt
              omega
          exact ⟨.inr ⟨hnone, hmore_nil⟩, fieldsOnLine_of_not_mem (by simp [hmore_nil])⟩

end ReadLoop

/-! ### Chunks -/

section Chunks

variable {decode} {s : TcpSession κ}

variable (decode) in
/-- A stream whose lines have their fields is read line by line, however it is cut. -/
theorem afterChunks_of_fieldsOnLine (chunks : List Bytes) (hconnected : s.connected)
    (hbuffer : endOfLine ∉ s.buffer) (h : FieldsOnLine (s.buffer ++ chunks.flatten)) :
    (afterChunks decode s chunks).dispatched = s.dispatched ++
        (Delimited.records endOfLine (s.buffer ++ chunks.flatten)).map (parseLine decode) ∧
      (afterChunks decode s chunks).buffer =
        Delimited.rest endOfLine (s.buffer ++ chunks.flatten) := by
  -- on the chunks; the buffer between two of them holds no complete line
  induction chunks generalizing s with
  | nil =>
      simp [afterChunks, Delimited.records_of_not_mem hbuffer, Delimited.rest_of_not_mem hbuffer]
  | cons chunk chunks ih =>
      rw [List.flatten_cons, ← List.append_assoc] at h ⊢
      let s' := onRead decode s (.received chunk)
      have hs' : s' = readLoop decode (s.buffer ++ chunk).length
          { s with buffer := s.buffer ++ chunk } := by
        simp [s', onRead, hconnected]
      obtain ⟨hdispatched, hrest⟩ := readLoop_of_fieldsOnLine decode
        (s := { s with buffer := s.buffer ++ chunk }) _ (Nat.le_refl _) h.of_append
      rw [← hs'] at hdispatched hrest
      simp only at hdispatched hrest
      have hconnected' : s'.connected := by simpa [hs'] using hconnected
      obtain ⟨hall, hleft⟩ := ih (s := s') hconnected'
        (hrest ▸ Delimited.not_mem_rest _) (hrest ▸ h.of_rest)
      have hrun : afterChunks decode s (chunk :: chunks) = afterChunks decode s' chunks := rfl
      rw [hrun, hall, hleft, hdispatched, hrest, Delimited.records_append (s.buffer ++ chunk),
        Delimited.rest_append (s.buffer ++ chunk)]
      simp

end Chunks

/-- The lines of a stream are dispatched one by one, however it is cut, iff every complete line has
two `|`, or is the end of the stream and has none. -/
theorem confined_iff_fieldsOnLine (rxCallbacks : List (Bytes × κ)) (rxAll : List κ)
    (stream : Bytes) : Confined decode rxCallbacks rxAll stream ↔ FieldsOnLine stream := by
  constructor
  · intro h
    -- the cutting into one chunk decides
    obtain ⟨hdispatched, hrest⟩ := h [stream] (by simp)
    exact fieldsOnLine_of_readLoop
      (s := { rxCallbacks := rxCallbacks, rxAll := rxAll, buffer := stream }) stream.length
      (Nat.le_refl _) hdispatched hrest
  · rintro h chunks rfl
    simpa using afterChunks_of_fieldsOnLine decode
      (s := { rxCallbacks := rxCallbacks, rxAll := rxAll }) chunks rfl (by simp) h

/-- The stream `x\n||\n` is dispatched as two lines if it is cut after the first, and as one line
if it is not cut. -/
theorem not_confined_of_short_line :
    ¬ Confined (κ := Unit) id [] [()] [120, 10, 124, 124, 10] := by
  intro h
  have hone := (h [[120, 10, 124, 124, 10]] rfl).1
  exact absurd hone (by decide +kernel)

end TcpSession

end Netsim
