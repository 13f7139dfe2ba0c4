import BuildLog.Proofs.Report.Json
import BuildLog.Proofs.Report.Lines

/-! A sink that does not take the whole report. It has the bytes up to where it failed, and the kind
of the error tells whether that was inside a JSON object. -/

namespace BuildLog.Report

/-- The newline behind one of the entries has so many bytes in front of it. -/
def EndsEntry (entries : List String) (n : Nat) : Prop :=
  ∃ front entry behind, entries = front ++ entry :: behind ∧
    n = (lines front).length + (Utf8.encode entry.toList).length

/-- Bytes that are handed to a sink at once, and the error if it takes only some of them. -/
structure Piece where
  bytes : List UInt8
  failure : ReportError

/-- Hands pieces to a sink that takes `room` more bytes, up to the first piece that is not taken as
a whole: what the sink takes, and the error. -/
def put : Nat → List Piece → List UInt8 × Option ReportError
  | _, [] => ([], none)
  | room, p :: ps =>
    if room < p.bytes.length then (p.bytes.take room, some p.failure)
    else (p.bytes ++ (put (room - p.bytes.length) ps).1, (put (room - p.bytes.length) ps).2)

/-- The pieces of entries that are each cut into pieces in some way. A newline is a piece of its
own. -/
def pieces (format : ReportFormat) (reason : String) (cut : String → List (List UInt8))
    (entries : List String) : List Piece :=
  entries.flatMap fun entry =>
    (cut entry).map (⟨·, entryFailure format reason⟩) ++ [⟨[0x0A], .write reason⟩]

variable {format : ReportFormat} {reason : String} {room n : Nat} {es front rest : List String}
  {entry : String}

theorem writeLimited_inside (h : n < (Utf8.encode entry.toList).length) :
    writeLimited format reason n (entry :: rest) =
      ((Utf8.encode entry.toList).take n, some (entryFailure format reason)) := by
  rw [writeLimited, if_pos h]

theorem writeLimited_newline (h : n = (Utf8.encode entry.toList).length) :
    writeLimited format reason n (entry :: rest) =
      (Utf8.encode entry.toList, some (.write reason)) := by
  rw [writeLimited, if_neg (by omega), if_pos h]

theorem writeLimited_behind (h : (Utf8.encode entry.toList).length < n) :
    writeLimited format reason n (entry :: rest) =
      (Utf8.encode entry.toList ++ 0x0A ::
          (writeLimited format reason (n - ((Utf8.encode entry.toList).length + 1)) rest).1,
        (writeLimited format reason (n - ((Utf8.encode entry.toList).length + 1)) rest).2) := by
  rw [writeLimited, if_neg (by omega), if_neg (by omega)]

/-- Entries that a sink takes as a whole are behind it, and it goes on with the room that is left. -/
theorem writeLimited_append (h : (lines front).length ≤ n) :
    writeLimited format reason n (front ++ rest) =
      (lines front ++ (writeLimited format reason (n - (lines front).length) rest).1,
        (writeLimited format reason (n - (lines front).length) rest).2) := by
  induction front generalizing n with
  | nil => rfl
  | cons entry front ih =>
    have hlength : (lines (entry :: front)).length =
        (Utf8.encode entry.toList).length + 1 + (lines front).length := by
      simp only [lines_cons, List.length_append, List.length_cons]
      omega
    rw [hlength] at h
    rw [List.cons_append, writeLimited_behind (by omega), ih (by omega), hlength, ← Nat.sub_sub _ _
      (lines front).length, lines_cons, List.append_assoc, List.cons_append]

/-- Every byte of a report belongs to an entry or is the newline behind one. -/
theorem exists_entry (h : n < (lines es).length) :
    ∃ front entry behind, es = front ++ entry :: behind ∧ (lines front).length ≤ n ∧
      n ≤ (lines front).length + (Utf8.encode entry.toList).length := by
  induction es generalizing n with
  | nil => exact absurd h (Nat.not_lt_zero n)
  | cons entry es ih =>
    by_cases hn : n ≤ (Utf8.encode entry.toList).length
    · exact ⟨[], entry, es, rfl, Nat.zero_le n, by simpa [lines] using hn⟩
    · simp only [lines_cons, List.length_append, List.length_cons] at h
      obtain ⟨front, entry', behind, rfl, hfront, hentry⟩ :=
        ih (n := n - ((Utf8.encode entry.toList).length + 1)) (by omega)
      refine ⟨entry :: front, entry', behind, rfl, ?_, ?_⟩
      · simp only [lines_cons, List.length_append, List.length_cons]
        omega
      · simp only [lines_cons, List.length_append, List.length_cons]
        omega

theorem snd_writeLimited_of_le (h : (lines es).length ≤ n) :
    (writeLimited format reason n es).2 = none := by
  rw [← List.append_nil es, writeLimited_append h]
  rfl

theorem snd_writeLimited_of_endsEntry (h : EndsEntry es n) :
    (writeLimited format reason n es).2 = some (.write reason) := by
  obtain ⟨front, entry, behind, rfl, rfl⟩ := h
  rw [writeLimited_append (Nat.le_add_right _ _), Nat.add_sub_cancel_left, writeLimited_newline rfl]

theorem snd_writeLimited_of_inside (h : n < (lines es).length) (hend : ¬ EndsEntry es n) :
    (writeLimited format reason n es).2 = some (entryFailure format reason) := by
  obtain ⟨front, entry, behind, rfl, hfront, hentry⟩ := exists_entry h
  have hne : n ≠ (lines front).length + (Utf8.encode entry.toList).length := fun hn =>
    hend ⟨front, entry, behind, rfl, hn⟩
  rw [writeLimited_append hfront, writeLimited_inside (by omega)]

/-- What a sink takes of a report are its first bytes. -/
theorem fst_writeLimited (format : ReportFormat) (reason : String) (n : Nat) (es : List String) :
    (writeLimited format reason n es).1 = (lines es).take n := by
  induction es generalizing n with
  | nil => exact List.take_nil.symm
  | cons entry es ih =>
    rw [lines_cons, List.take_append]
    rcases Nat.lt_trichotomy n (Utf8.encode entry.toList).length with h | h | h
    · rw [writeLimited_inside h, Nat.sub_eq_zero_of_le (Nat.le_of_lt h), List.take_zero,
        List.append_nil]
    · rw [writeLimited_newline h, h, List.take_length, Nat.sub_self, List.take_zero, List.append_nil]
    · rw [writeLimited_behind h, List.take_of_length_le (Nat.le_of_lt h), ih,
        List.take_cons (Nat.sub_pos_of_lt h), Nat.sub_sub]

section

variable {ps qs : List Piece} {e : ReportError}

theorem put_append_of_le (h : (ps.flatMap Piece.bytes).length ≤ room) : put room (ps ++ qs) =
    (ps.flatMap Piece.bytes ++ (put (room - (ps.flatMap Piece.bytes).length) qs).1,
      (put (room - (ps.flatMap Piece.bytes).length) qs).2) := by
  induction ps generalizing room with
  | nil => rfl
  | cons p ps ih =>
    rw [List.flatMap_cons, List.length_append] at h
    rw [List.cons_append, put, if_neg (by omega), ih (by omega), List.flatMap_cons,
      List.length_append, Nat.sub_add_eq, List.append_assoc]

theorem put_append_of_lt (hfailure : ∀ p ∈ ps, p.failure = e)
    (h : room < (ps.flatMap Piece.bytes).length) :
    put room (ps ++ qs) = ((ps.flatMap Piece.bytes).take room, some e) := by
  induction ps generalizing room with
  | nil => exact absurd h (Nat.not_lt_zero room)
  | cons p ps ih =>
    obtain ⟨hp, hps⟩ := List.forall_mem_cons.mp hfailure
    rw [List.flatMap_cons, List.length_append] at h
    rw [List.cons_append, put, List.flatMap_cons, List.take_append]
    by_cases hroom : room < p.bytes.length
    · rw [if_pos hroom, Nat.sub_eq_zero_of_le (Nat.le_of_lt hroom), List.take_zero, List.append_nil,
        hp]
    · rw [if_neg hroom, ih hps (by omega), List.take_of_length_le (l := p.bytes) (by omega)]

/-- However the entries are cut into pieces, a sink takes the same of them and fails alike. -/
theorem put_pieces {cut : String → List (List UInt8)}
    (hcut : ∀ entry, (cut entry).flatten = Utf8.encode entry.toList) (room : Nat)
    (es : List String) :
    put room (pieces format reason cut es) = writeLimited format reason room es := by
  induction es generalizing room with
  | nil => rfl
  | cons entry es ih =>
    let ps := (cut entry).map (Piece.mk · (entryFailure format reason))
    let newline : Piece := ⟨[0x0A], .write reason⟩
    have hbytes : ps.flatMap Piece.bytes = Utf8.encode entry.toList := by
      rw [List.flatMap_map, List.flatMap_id', hcut]
    have hfailure : ∀ p ∈ ps, p.failure = entryFailure format reason :=
      List.forall_mem_map.mpr fun _ _ => rfl
    have hpieces : pieces format reason cut (entry :: es) =
        ps ++ ([newline] ++ pieces format reason cut es) := by
      simp [pieces, ps, newline]
    rw [hpieces]
    rcases Nat.lt_or_ge room (Utf8.encode entry.toList).length with h | h
    · rw [put_append_of_lt hfailure (by rwa [hbytes]), hbytes, writeLimited_inside h]
    · rw [put_append_of_le (by rwa [hbytes]), hbytes]
      rcases Nat.eq_or_lt_of_le h with h | h
      · rw [put_append_of_lt (e := .write reason) (by simp [newline]) (by simp [newline]; omega),
          writeLimited_newline h.symm]
        simp [h]
      · rw [put_append_of_le (by simp [newline]; omega), writeLimited_behind h, ih, Nat.sub_sub]
        rfl

end

theorem getElem?_of_endsEntry (h : EndsEntry es n) : (lines es)[n]? = some 0x0A := by
  obtain ⟨front, entry, behind, rfl, rfl⟩ := h
  rw [lines_append, lines_cons, List.getElem?_append_right (Nat.le_add_right _ _),
    Nat.add_sub_cancel_left, List.getElem?_append_right (Nat.le_refl _), Nat.sub_self]
  rfl

/-- Where no entry holds a newline each newline ends an entry. -/
theorem getElem?_lines_iff (h : ∀ entry ∈ es, 0x0A ∉ Utf8.encode entry.toList) :
    (lines es)[n]? = some 0x0A ↔ EndsEntry es n := by
  refine ⟨fun hn => ?_, getElem?_of_endsEntry⟩
  obtain ⟨hlt, _⟩ := List.getElem?_eq_some_iff.mp hn
  obtain ⟨front, entry, behind, rfl, hfront, hentry⟩ := exists_entry hlt
  rcases Nat.eq_or_lt_of_le hentry with heq | hlt
  · exact ⟨front, entry, behind, rfl, heq⟩
  · rw [lines_append, lines_cons, List.getElem?_append_right hfront,
      List.getElem?_append_left (by omega)] at hn
    exact absurd (List.mem_of_getElem? hn) (h entry (by simp))

theorem write_of_limit (format : ReportFormat) (records : List Record) (n : Nat) (reason : String)
    (flushFailure : Option String) :
    write { limit := some (n, reason), flushFailure } format records =
      ⟨(lines (entries format records)).take n,
        match (writeLimited format reason n (entries format records)).2, flushFailure with
        | some e, _ => .error e
        | none, some r => .error (.write r)
        | none, none => .ok (entries format records).length⟩ := by
  rw [← fst_writeLimited format reason n]
  simp only [write]
  rcases writeLimited format reason n (entries format records) with ⟨accepted, error⟩
  cases error <;> cases flushFailure <;> rfl

/-- A sink with little room takes the first bytes of the report, as many as it has room for. The
report is written if it fits and the sink does not fail at the end. Else the error is one of the
serializer exactly if the first byte that is not taken belongs to a JSON object, and it does not
matter in which pieces the entries are handed over. -/
theorem write_limited (format : ReportFormat) (records : List Record) (n : Nat) (reason : String)
    (flushFailure : Option String) :
    let whole := write {} format records
    let limited := write { limit := some (n, reason), flushFailure } format records
    let written := whole.accepted.length ≤ n ∧ flushFailure = none
    let inObject := format = .json ∧ n < whole.accepted.length ∧
      ¬ EndsEntry (entries format records) n
    limited.accepted = whole.accepted.take (min n whole.accepted.length) ∧
    (∃ count, whole.result = .ok count) ∧
    (limited.result = whole.result ↔ written) ∧
    ((∃ r, limited.result = .error (.serialize r)) ↔ inObject) ∧
    ((∃ r, limited.result = .error (.write r)) ↔ ¬ written ∧ ¬ inObject) ∧
    (format = .json →
      (EndsEntry (entries format records) n ↔ whole.accepted[n]? = some 0x0A)) ∧
    ∀ cut : String → List (List UInt8), (∀ entry, (cut entry).flatten = Utf8.encode entry.toList) →
      put n (pieces format reason cut (entries format records)) =
        writeLimited format reason n (entries format records) := by
  intro whole limited written inObject
  have hwhole : whole = ⟨lines (entries format records), .ok (entries format records).length⟩ :=
    write_eq format records
  have haccepted : whole.accepted = lines (entries format records) := congrArg Outcome.accepted hwhole
  have hcount : whole.result = .ok (entries format records).length := congrArg Outcome.result hwhole
  have hjson : format = .json →
      (EndsEntry (entries format records) n ↔ whole.accepted[n]? = some 0x0A) := by
    rintro rfl
    rw [haccepted]
    exact (getElem?_lines_iff (List.forall_mem_map.mpr fun r _ => newline_notMem_json r)).symm
  have hlimited := write_of_limit format records n reason flushFailure
  have haccepts : limited.accepted = whole.accepted.take (min n whole.accepted.length) := by
    rw [haccepted, ← List.take_eq_take_min]
    exact congrArg Outcome.accepted hlimited
  suffices hresult : (limited.result = whole.result ↔ written) ∧
      ((∃ r, limited.result = .error (.serialize r)) ↔ inObject) ∧
      ((∃ r, limited.result = .error (.write r)) ↔ ¬ written ∧ ¬ inObject) from
    ⟨haccepts, ⟨_, hcount⟩, hresult.1, hresult.2.1, hresult.2.2, hjson,
      fun cut hcut => put_pieces hcut n _⟩
  have hlimited : limited.result = _ := congrArg Outcome.result hlimited
  simp only [written, inObject, hcount, haccepted, hlimited]
  by_cases hfit : (lines (entries format records)).length ≤ n
  · rw [snd_writeLimited_of_le hfit]
    cases flushFailure <;> simp [hfit, Nat.not_lt.mpr hfit]
  have hlt := Nat.lt_of_not_le hfit
  by_cases hend : EndsEntry (entries format records) n
  · rw [snd_writeLimited_of_endsEntry hend]
    simp [hfit, hend]
  · rw [snd_writeLimited_of_inside hlt hend]
    cases format <;> simp [hfit, hlt, hend, entryFailure]

/-- A disk with room for one byte fails inside an object, also if it gets byte by byte. -/
theorem write_limited_first_byte :
    let records : List Record :=
      [⟨1, "gcc", "-c a.c", "gcc", some .c, .gcc, .basenameExact, none, none, []⟩]
    (write { limit := some (1, "disk full") } .json records).accepted.length = 1 ∧
      (∃ r, (write { limit := some (1, "disk full") } .json records).result =
        .error (.serialize r)) ∧
      put 1 (pieces .json "disk full" (fun entry => (Utf8.encode entry.toList).map ([·]))
          (entries .json records)) =
        writeLimited .json "disk full" 1 (entries .json records) := by
  intro records
  obtain ⟨haccepted, _, _, hserialize, _, hnewline, hcut⟩ :=
    write_limited .json records 1 "disk full" none
  have hbyte : (write {} .json records).accepted[1]? = some 0x22 := by
    rw [accepted_json, List.flatMap_singleton, Record.json, String.toList_ofList]
    rfl
  obtain ⟨hlt, _⟩ := List.getElem?_eq_some_iff.mp hbyte
  refine ⟨?_, hserialize.mpr ⟨rfl, hlt, fun hend => ?_⟩, hcut _ fun entry => ?_⟩
  · rw [haccepted, List.length_take]
    omega
  · rw [hbyte] at hnewline
    exact absurd ((hnewline rfl).mp hend) (by decide)
  · exact List.flatMap_singleton' _

end BuildLog.Report
