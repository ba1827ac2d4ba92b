import SparcEmu.GdbStub

/-!
Packets on the wire: `recv_packet` as a scan of what the socket delivers, and the frames that it
takes apart.
-/

namespace SparcEmu

/-! ### The socket -/

/-- What a `read` of one byte returns. With a byte comes the flag `shutting_down_` as it is tested
behind that read. -/
inductive ReadResult
  | byte (ch : Char) (shutting_down : Bool)
  | disconnected
  | interrupted
  | failed
  deriving DecidableEq, Repr

/-- The connection: what the reads to come return, what was written, and whether writes succeed. Behind
the last read the peer is gone. -/
structure Conn where
  reads : List ReadResult
  written : List Char
  writable : Bool
  deriving DecidableEq, Repr

namespace GdbStub

/-- The packet that stands for Ctrl-C. -/
def CTRL_C : List Char := ['\x03']

/-- The bytes up to `stop`, behind those in `buf`; or else what `recv_packet` returns at once. -/
def readUntil (stop : Char) (buf : List Char) :
    List ReadResult → Except (Option (List Char)) (List Char) × List ReadResult
  | [] => (.error none, [])
  | .disconnected :: reads => (.error none, reads)
  | .failed :: reads => (.error none, reads)
  | .interrupted :: reads => readUntil stop buf reads
  | .byte ch shutting_down :: reads =>
    if shutting_down then (.error none, reads)
    else if ch = '\x03' then (.error (some CTRL_C), reads)
    else if ch = stop then (.ok buf, reads)
    else readUntil stop (buf ++ [ch]) reads

/-- One byte of the checksum, which nobody looks at: was there one? -/
def readByte : List ReadResult → Bool × List ReadResult
  | [] => (false, [])
  | .byte _ _ :: reads => (true, reads)
  | _ :: reads => (false, reads)

def recv_packet (c : Conn) : Option (List Char) × Conn :=
  match readUntil '$' [] c.reads with
  | (.error r, reads) => (r, { c with reads := reads })
  | (.ok _, reads) =>
    match readUntil '#' [] reads with
    | (.error r, reads) => (r, { c with reads := reads })
    | (.ok buf, reads) =>
      match readByte reads with
      | (false, reads) => (none, { c with reads := reads })
      | (true, reads) =>
        match readByte reads with
        | (false, reads) => (none, { c with reads := reads })
        | (true, reads) =>
          if c.writable then (some buf, { c with reads := reads, written := c.written ++ ['+'] })
          else (none, { c with reads := reads })

/-- The packets that the loop of `gdb_thread` handles, at most `n` of them. -/
def recv_packets : Nat → Conn → List (List Char) × Conn
  | 0, c => ([], c)
  | n + 1, c =>
    match recv_packet c with
    | (none, c) => ([], c)
    | (some pkt, c) => (pkt :: (recv_packets n c).1, (recv_packets n c).2)

/-! ### Frames -/

/-- Reads that succeed while nobody shuts the stub down. -/
def delivered (text : List Char) : List ReadResult := text.map (.byte · false)

@[simp] lemma delivered_cons (ch : Char) (text : List Char) :
    delivered (ch :: text) = .byte ch false :: delivered text := rfl

@[simp] lemma delivered_append (text text' : List Char) :
    delivered (text ++ text') = delivered text ++ delivered text' := List.map_append

/-- A text that neither ends the scan for `stop` nor interrupts it. -/
def Passes (stop : Char) (text : List Char) : Prop := stop ∉ text ∧ '\x03' ∉ text

instance (stop : Char) (text : List Char) : Decidable (Passes stop text) :=
  inferInstanceAs (Decidable (_ ∧ _))

structure Framed where
  noise : List Char
  payload : List Char
  csum1 : Char
  csum2 : Char
  noise_passes : Passes '$' noise
  payload_passes : Passes '#' payload

def Framed.text (f : Framed) : List Char :=
  f.noise ++ '$' :: (f.payload ++ ['#', f.csum1, f.csum2])

/-- What the peer sends: frames with noise before them. -/
def wire (fs : List Framed) : List Char := fs.flatMap Framed.text

variable {stop : Char} {text : List Char} {rest : List ReadResult} {written : List Char}

lemma Passes.of_cons {ch : Char} (h : Passes stop (ch :: text)) :
    ch ≠ '\x03' ∧ ch ≠ stop ∧ Passes stop text := by
  obtain ⟨hs, hc⟩ := h
  simp only [List.mem_cons, not_or] at hs hc
  exact ⟨Ne.symm hc.1, Ne.symm hs.1, hs.2, hc.2⟩

lemma readUntil_passes (h : Passes stop text) (buf : List Char) :
    readUntil stop buf (delivered text ++ rest) = readUntil stop (buf ++ text) rest := by
  induction text generalizing buf with
  | nil => simp [delivered]
  | cons ch text ih =>
    obtain ⟨hc, hs, ht⟩ := h.of_cons
    have hstep : readUntil stop buf (.byte ch false :: (delivered text ++ rest)) =
        readUntil stop (buf ++ [ch]) (delivered text ++ rest) := by
      simp [readUntil, hc, hs]
    calc readUntil stop buf (delivered (ch :: text) ++ rest)
        = readUntil stop (buf ++ [ch]) (delivered text ++ rest) := hstep
      _ = readUntil stop (buf ++ [ch] ++ text) rest := ih ht _
      _ = readUntil stop (buf ++ ch :: text) rest := by simp

lemma readUntil_stop (hs : stop ≠ '\x03') (h : Passes stop text) (buf : List Char) :
    readUntil stop buf (delivered text ++ .byte stop false :: rest) = (.ok (buf ++ text), rest) := by
  rw [readUntil_passes h]
  simp [readUntil, hs]

lemma recv_packet_framed (f : Framed) :
    recv_packet ⟨delivered f.text ++ rest, written, true⟩ =
      (some f.payload, ⟨rest, written ++ ['+'], true⟩) := by
  have hnoise : readUntil '$' [] (delivered f.text ++ rest) =
      (.ok f.noise, delivered (f.payload ++ ['#', f.csum1, f.csum2]) ++ rest) := by
    unfold Framed.text
    rw [delivered_append, delivered_cons, List.append_assoc, List.cons_append,
      readUntil_stop (by decide) f.noise_passes]
    rfl
  have hpayload : readUntil '#' [] (delivered (f.payload ++ ['#', f.csum1, f.csum2]) ++ rest) =
      (.ok f.payload, delivered [f.csum1, f.csum2] ++ rest) := by
    rw [delivered_append, delivered_cons, List.append_assoc, List.cons_append,
      readUntil_stop (by decide) f.payload_passes]
    rfl
  unfold recv_packet
  dsimp only
  rw [hnoise]
  dsimp only
  rw [hpayload]
  rfl

lemma recv_packet_noise (h : Passes '$' text) :
    recv_packet ⟨delivered text, written, true⟩ = (none, ⟨[], written, true⟩) := by
  have hnoise : readUntil '$' [] (delivered text ++ []) = readUntil '$' text [] :=
    readUntil_passes h []
  rw [List.append_nil] at hnoise
  unfold recv_packet
  rw [hnoise]
  rfl

lemma recv_packets_some {c c' : Conn} {pkt : List Char} (h : recv_packet c = (some pkt, c')) (n : Nat) :
    recv_packets (n + 1) c = (pkt :: (recv_packets n c').1, (recv_packets n c').2) := by
  simp only [recv_packets, h]

lemma recv_packets_wire (fs : List Framed) (rest : List ReadResult) (written : List Char) (n : Nat) :
    recv_packets (fs.length + n) ⟨delivered (wire fs) ++ rest, written, true⟩ =
      (fs.map Framed.payload ++
          (recv_packets n ⟨rest, written ++ List.replicate fs.length '+', true⟩).1,
        (recv_packets n ⟨rest, written ++ List.replicate fs.length '+', true⟩).2) := by
  induction fs generalizing written with
  | nil => simp [wire, delivered]
  | cons f fs ih =>
    have hwire : delivered (wire (f :: fs)) ++ rest =
        delivered f.text ++ (delivered (wire fs) ++ rest) := by
      simp [wire]
    have hplus : written ++ List.replicate (f :: fs).length '+' =
        written ++ ['+'] ++ List.replicate fs.length '+' := by
      simp [List.replicate_succ]
    rw [hwire, hplus, List.length_cons, Nat.add_right_comm, recv_packets_some (recv_packet_framed f),
      ih]
    rfl

/-! ### The stub's own frames -/

lemma exists_framed {data : List Char} (h : Passes '#' data) :
    ∃ f : Framed, f.payload = data ∧ f.text = frame data := by
  obtain ⟨csum1, csum2, hcsum⟩ : ∃ csum1 csum2, frame data = '$' :: data ++ ['#', csum1, csum2] :=
    ⟨_, _, rfl⟩
  exact ⟨⟨[], data, csum1, csum2, ⟨List.not_mem_nil, List.not_mem_nil⟩, h⟩, rfl, hcsum.symm⟩

lemma exists_framed_list {datas : List (List Char)} (h : ∀ data ∈ datas, Passes '#' data) :
    ∃ fs : List Framed, fs.map Framed.payload = datas ∧ wire fs = datas.flatMap frame := by
  induction datas with
  | nil => exact ⟨[], rfl, rfl⟩
  | cons data datas ih =>
    obtain ⟨f, hf, ht⟩ := exists_framed (h data List.mem_cons_self)
    obtain ⟨fs, hfs, hts⟩ := ih fun d hd => h d (List.mem_cons_of_mem _ hd)
    refine ⟨f :: fs, by rw [List.map_cons, hf, hfs], ?_⟩
    unfold wire at hts ⊢
    rw [List.flatMap_cons, List.flatMap_cons, ht, hts]

/-- **Framing**: from frames with noise between them the stub receives the payloads, in order, and
acknowledges each. Behind the last frame it goes on with what comes then: with noise alone, it is done.
The frames may be those of `send_packet`. -/
theorem packet_framing_round_trip (fs : List Framed) (written : List Char) :
    (∀ rest, recv_packets fs.length ⟨delivered (wire fs) ++ rest, written, true⟩ =
      (fs.map Framed.payload, ⟨rest, written ++ List.replicate fs.length '+', true⟩)) ∧
    (∀ noise n, Passes '$' noise →
      recv_packets (fs.length + n + 1) ⟨delivered (wire fs ++ noise), written, true⟩ =
        (fs.map Framed.payload, ⟨[], written ++ List.replicate fs.length '+', true⟩)) ∧
    ∀ datas, (∀ data ∈ datas, Passes '#' data) → ∀ rest,
      recv_packets datas.length ⟨delivered (datas.flatMap frame) ++ rest, written, true⟩ =
        (datas, ⟨rest, written ++ List.replicate datas.length '+', true⟩) := by
  have hall : ∀ fs rest, recv_packets fs.length ⟨delivered (wire fs) ++ rest, written, true⟩ =
      (fs.map Framed.payload, ⟨rest, written ++ List.replicate fs.length '+', true⟩) := by
    intro fs rest
    have h := recv_packets_wire fs rest written 0
    simpa [recv_packets] using h
  refine ⟨hall fs, fun noise n hn => ?_, fun datas hd rest => ?_⟩
  · rw [delivered_append, Nat.add_assoc, recv_packets_wire]
    simp only [recv_packets, recv_packet_noise hn, List.append_nil]
  · obtain ⟨fs, hfs, hw⟩ := exists_framed_list hd
    have hlen : fs.length = datas.length := by rw [← hfs, List.length_map]
    rw [← hw, ← hlen, hall, hfs]

/-- Acknowledgements and the end of a frame in the noise, a `$` in a payload and in a checksum. -/
theorem packet_framing_noisy :
    recv_packets 3 ⟨delivered "+#$m0,4#$$-$a$b#00".toList, [], true⟩ =
      (["m0,4".toList, "a$b".toList], ⟨[], ['+', '+'], true⟩) ∧
    recv_packets 1 ⟨delivered (frame "OK".toList), [], true⟩ = (["OK".toList], ⟨[], ['+'], true⟩) := by
  let f : Framed := ⟨['+', '#'], "m0,4".toList, '$', '$', by decide, by decide⟩
  let g : Framed := ⟨['-'], "a$b".toList, '0', '0', by decide, by decide⟩
  have hf := (packet_framing_round_trip [f, g] []).2.1 [] 0 (by decide)
  have hs := (packet_framing_round_trip [] []).2.2 ["OK".toList] (by decide) []
  rw [List.append_nil] at hf hs
  exact ⟨hf, by rwa [List.flatMap_singleton] at hs⟩

end GdbStub

end SparcEmu
