/-
Rewriting the lifetimes of a run of records in place.

A rewrite changes the lifetime fields of the records, leaves every other byte
alone, and keeps the length.  Clamping and aging differ in the new lifetime
only.
-/
import NativeDNS.Wire.Records

namespace NativeDNS

/-- An offset in the lifetime field of a record that a rewrite may change. -/
def InTtl (record : Record) (offset : Nat) : Prop :=
  record.type ≠ 41 ∧ record.header + 4 ≤ offset ∧ offset < record.header + 8

instance (record : Record) (offset : Nat) : Decidable (InTtl record offset) :=
  inferInstanceAs (Decidable (_ ∧ _))

/-- Write the new lifetime of one record; an OPT record has none. -/
def rewriteTtl (lifetime : Nat → Nat) (packet : Packet) (record : Record) :
    Packet :=
  if record.type = 41 then packet
  else putDword packet (record.header + 4) (lifetime record.ttl)

section Rewrite

variable {lifetime : Nat → Nat}

@[simp] theorem rewriteTtl_length (packet : Packet) (record : Record) :
    (rewriteTtl lifetime packet record).length = packet.length := by
  unfold rewriteTtl
  split
  · rfl
  · exact putDword_length ..

@[simp] theorem rewriteTtls_length (records : List Record) :
    ∀ packet : Packet,
      (records.foldl (rewriteTtl lifetime) packet).length = packet.length := by
  induction records with
  | nil =>
      intro packet
      rfl
  | cons record rest ih =>
      intro packet
      rw [List.foldl_cons, ih, rewriteTtl_length]

theorem byteAt_rewriteTtl {packet : Packet} {record : Record} {offset : Nat}
    (outside : ¬ InTtl record offset) :
    byteAt (rewriteTtl lifetime packet record) offset =
      byteAt packet offset := by
  unfold rewriteTtl
  split
  · rfl
  · rename_i rewritten
    apply byteAt_putDword_of_outside
    simp only [InTtl, not_and] at outside
    have far := outside rewritten
    omega

theorem byteAt_rewriteTtls {records : List Record} {offset : Nat}
    (outside : ∀ record ∈ records, ¬ InTtl record offset) :
    ∀ packet : Packet,
      byteAt (records.foldl (rewriteTtl lifetime) packet) offset =
        byteAt packet offset := by
  induction records with
  | nil =>
      intro packet
      rfl
  | cons record rest ih =>
      intro packet
      rw [List.foldl_cons,
        ih (fun other inRest => outside other (List.mem_cons_of_mem record inRest)),
        byteAt_rewriteTtl (outside record List.mem_cons_self)]

theorem byteAt_rewriteTtls_before {reply packet : Packet}
    {position last offset : Nat} {records : List Record}
    (run : RecordRun reply position records last)
    (before : offset ≤ position + 4) :
    byteAt (records.foldl (rewriteTtl lifetime) packet) offset =
      byteAt packet offset := by
  apply byteAt_rewriteTtls
  intro record member inside
  have bounds := run.bounds member
  unfold InTtl at inside
  omega

theorem rewriteTtl_agree {reply packet : Packet} {position : Nat}
    {record : Record} (here : RecordAt reply position record)
    (agree : AgreeOn packet reply position reply.length) :
    AgreeOn (rewriteTtl lifetime packet record) reply record.end
      reply.length := by
  intro offset lower upper
  have start := here.lt_end
  have headEnd : record.header + 10 ≤ record.end := Nat.le_add_right _ _
  rw [byteAt_rewriteTtl (by unfold InTtl; omega)]
  exact agree offset (by omega) upper

theorem RecordAt.ttl_lt {packet : Packet} {position : Nat} {record : Record}
    (here : RecordAt packet position record) : record.ttl < 4294967296 := by
  rw [here.fieldsEq]
  exact dwordAt_lt ..

/-- Every record of a run but OPT gets its new lifetime: the fields of
different records do not overlap. -/
theorem dwordAt_rewriteTtls {reply : Packet} {position last : Nat}
    {records : List Record} (run : RecordRun reply position records last)
    (fits : ∀ ttl < 4294967296, lifetime ttl < 4294967296) :
    ∀ {packet : Packet} {record : Record}, packet.length = reply.length →
      record ∈ records → record.type ≠ 41 →
        dwordAt (records.foldl (rewriteTtl lifetime) packet)
            (record.header + 4) = lifetime record.ttl := by
  induction run with
  | done =>
      intro packet record _ member
      cases member
  | @record position last head rest here later ih =>
      intro packet record sameLength member rewritten
      rw [List.foldl_cons]
      rcases List.mem_cons.mp member with rfl | inRest
      · have inside := here.header_le
        have headEnd : record.header + 10 ≤ record.end := Nat.le_add_right _ _
        have written :
            dwordAt (rewriteTtl lifetime packet record) (record.header + 4) =
              lifetime record.ttl := by
          unfold rewriteTtl
          rw [if_neg rewritten]
          exact dwordAt_putDword (by omega) (fits _ here.ttl_lt)
        rw [← written]
        refine dwordAt_congr_self ?_
        intro offset lower upper
        exact byteAt_rewriteTtls_before later (by omega)
      · exact ih (by rw [rewriteTtl_length, sameLength]) inRest rewritten

end Rewrite

end NativeDNS
