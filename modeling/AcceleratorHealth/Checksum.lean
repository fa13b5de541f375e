import AcceleratorHealth.Corruption

/-! The checksum against its specification: a table of 256 entries does what the division
does bit by bit, and a message followed by its own checksum leaves the register in one
state, the same for every message and for no other trailer. -/
namespace AcceleratorHealth
open Wire Util

namespace Util

/-- The reflected CRC-32, one message bit at a time: all ones at first, complemented at
the end. -/
def crc32Bitwise (data : Bytes) : BitVec 32 :=
  ~~~Crc.serial crcPoly (BitVec.allOnes 32) (Crc.bitsOf data)

theorem crc32_eq_bitwise (data : Bytes) : (crc32 data).toBitVec = crc32Bitwise data := by
  rw [crc32_toBitVec, crc32Bitwise, Crc.serial_bitsOf (by decide), BitVec.xor_allOnes]

/-- The register of `crc32` before the final complement. -/
def register (data : Bytes) : UInt32 := data.foldl crcStep 0xFFFFFFFF

def residue : UInt32 := 0xDEBB20E3

theorem register_toBitVec (data : Bytes) :
    (register data).toBitVec = Crc.run crcPoly (BitVec.allOnes 32) data :=
  foldl_crcStep_toBitVec data 0xFFFFFFFF

theorem sealed_append_crc32 (data : Bytes) :
    Sealed data.length (data ++ storeLe 4 (crc32 data).toNat) := by
  have htrailer : (storeLe 4 (crc32 data).toNat).take 4 = storeLe 4 (crc32 data).toNat :=
    List.take_of_length_le (storeLe_length _ _).le
  rw [Sealed, List.drop_left, List.take_left, htrailer,
    loadLe_storeLe _ _ (UInt32.toNat_lt _)]

theorem register_of_sealed {n : Nat} {data : Bytes} (hlength : data.length = n + 4)
    (h : Sealed n data) : register data = residue := by
  apply UInt32.toBitVec_inj.mp
  rw [register_toBitVec, run_of_sealed hlength h]
  decide +kernel

/-- The table-driven checksum is the CRC-32 of the standard, bit by bit, and the register
over a message and its trailer ends in the residue. -/
theorem crc32_specified (data : Bytes) :
    (crc32 data).toBitVec = crc32Bitwise data ∧
      register (data ++ storeLe 4 (crc32 data).toNat) = residue :=
  ⟨crc32_eq_bitwise data, register_of_sealed (by rw [List.length_append, storeLe_length])
    (sealed_append_crc32 data)⟩

/-- The check value of the standard: the digits 1 to 9. -/
example : crc32 (str "123456789") = 0xCBF43926 := by decide +kernel

end Util
end AcceleratorHealth
