import AiOs.Adapter.Network

/-! Which destinations the Network Adapter refuses. The classification looks at one address family
at a time, so an IPv4-mapped IPv6 address is judged as the IPv6 address it is written as and not as
the IPv4 address that it carries. -/
namespace AiOs

namespace IpAddr

/-- An IPv4-mapped address as the IPv4 address it carries, as `IpAddr::to_canonical` reads it. -/
def toCanonical : IpAddr → IpAddr
  | .v4 bits => .v4 bits
  | .v6 bits =>
    if bits.extractLsb' 32 96 = 0xFFFF then .v4 (bits.extractLsb' 0 32) else .v6 bits

def isSpecial (ip : IpAddr) : Bool := ip.isUnspecified || ip.isMulticast || ip == broadcast

/-- The IPv6 address that carries an IPv4 address. -/
def mapped (address : BitVec 32) : IpAddr := .v6 (BitVec.ofNat 128 (0xFFFF * 2 ^ 32 + address.toNat))

theorem toCanonical_mapped (address : BitVec 32) : (mapped address).toCanonical = .v4 address := by
  have small := address.isLt
  have prefix_bits : (BitVec.ofNat 128 (0xFFFF * 2 ^ 32 + address.toNat)).extractLsb' 32 96 = 0xFFFF := by
    apply BitVec.eq_of_toNat_eq
    rw [BitVec.extractLsb'_toNat, BitVec.toNat_ofNat, Nat.shiftRight_eq_div_pow]
    change _ = 65535
    omega
  have rest : (BitVec.ofNat 128 (0xFFFF * 2 ^ 32 + address.toNat)).extractLsb' 0 32 = address := by
    apply BitVec.eq_of_toNat_eq
    rw [BitVec.extractLsb'_toNat, BitVec.toNat_ofNat, Nat.shiftRight_eq_div_pow]
    omega
  rw [mapped, toCanonical, if_pos prefix_bits, rest]

theorem toCanonical_cases (ip : IpAddr) :
    ip.toCanonical = ip ∨ ∃ address, ip = mapped address := by
  cases ip with
  | v4 bits => exact .inl rfl
  | v6 bits =>
    by_cases carries : bits.extractLsb' 32 96 = 0xFFFF
    · refine .inr ⟨bits.extractLsb' 0 32, ?_⟩
      have value := congrArg BitVec.toNat carries
      have small := bits.isLt
      rw [BitVec.extractLsb'_toNat, Nat.shiftRight_eq_div_pow] at value
      change _ = 65535 at value
      apply congrArg IpAddr.v6
      apply BitVec.eq_of_toNat_eq
      rw [BitVec.toNat_ofNat, BitVec.extractLsb'_toNat, Nat.shiftRight_eq_div_pow]
      omega
    · exact .inl (if_neg carries)

theorem isSpecial_mapped (address : BitVec 32) : (mapped address).isSpecial = false := by
  have small := address.isLt
  have nonzero : BitVec.ofNat 128 (0xFFFF * 2 ^ 32 + address.toNat) ≠ 0 := by
    intro zero
    have value := congrArg BitVec.toNat zero
    rw [BitVec.toNat_ofNat] at value
    change _ = 0 at value
    omega
  have unicast : (BitVec.ofNat 128 (0xFFFF * 2 ^ 32 + address.toNat)).extractLsb' 120 8 ≠ 0xFF := by
    intro multicast
    have value := congrArg BitVec.toNat multicast
    rw [BitVec.extractLsb'_toNat, BitVec.toNat_ofNat, Nat.shiftRight_eq_div_pow] at value
    change _ = 255 at value
    omega
  simpa [isSpecial, mapped, isUnspecified, isMulticast, broadcast] using And.intro nonzero unicast

end IpAddr

namespace NetworkAdapter

open IpAddr

theorem validateOperation_ok {host : String} {port : UInt16} {request : List UInt8} {ip : IpAddr} :
    validateOperation host port request = .ok ip ↔
      host.utf8ByteSize ≤ maxNetworkHostBytes ∧ port ≠ 0 ∧ request.length ≤ maxTcpRequestBytes ∧
        IpAddr.parse host = some ip ∧ ip.isSpecial = false := by
  have empty : IpAddr.parse "" = none := by decide
  unfold validateOperation
  by_cases sized : (host.isEmpty || decide (maxNetworkHostBytes < host.utf8ByteSize) || port == 0
      || decide (maxTcpRequestBytes < request.length)) = true
  · rw [if_pos sized]
    simp only [reduceCtorEq, false_iff]
    rintro ⟨short, nonzero, small, parsed, -⟩
    simp only [Bool.or_eq_true, decide_eq_true_eq, beq_iff_eq, String.isEmpty_iff] at sized
    rcases sized with ((blank | long) | zero) | large
    · rw [blank, empty] at parsed
      cases parsed
    · omega
    · exact nonzero zero
    · omega
  · rw [if_neg sized]
    simp only [Bool.or_eq_true, decide_eq_true_eq, beq_iff_eq, not_or, Nat.not_lt] at sized
    obtain ⟨⟨⟨_, short⟩, nonzero⟩, small⟩ := sized
    simp only [short, ne_eq, nonzero, not_false_eq_true, small, true_and]
    cases parsed : IpAddr.parse host with
    | none => simp
    | some found =>
      by_cases special : (found.isUnspecified || found.isMulticast || found == broadcast) = true
      · have refused : found.isSpecial = true := special
        simp only [special, if_true, reduceCtorEq, Option.some.injEq, false_iff]
        rintro ⟨rfl, accepted⟩
        rw [refused] at accepted
        cases accepted
      · have accepted : found.isSpecial = false := Bool.eq_false_iff.mpr special
        simp only [special, Bool.false_eq_true, if_false, Except.ok.injEq, Option.some.injEq]
        constructor
        · rintro rfl
          exact ⟨rfl, accepted⟩
        · exact fun ⟨same, _⟩ => same

/-- The special addresses are refused in every spelling but the mapped one: a host and a port are
safe exactly when the host does not spell the IPv6 form of a special IPv4 address. -/
theorem special_refused_iff (host : String) (port : UInt16) :
    (∀ request ip, validateOperation host port request = .ok ip →
      ip.toCanonical.isSpecial = false) ↔
    ¬ (host.utf8ByteSize ≤ maxNetworkHostBytes ∧ port ≠ 0 ∧
      ∃ address, IpAddr.parse host = some (mapped address) ∧ (IpAddr.v4 address).isSpecial = true) := by
  constructor
  · rintro safe ⟨short, nonzero, address, parsed, special⟩
    have accepted : validateOperation host port [] = .ok (mapped address) :=
      validateOperation_ok.mpr ⟨short, nonzero, Nat.zero_le _, parsed, isSpecial_mapped address⟩
    have refused := safe [] (mapped address) accepted
    rw [toCanonical_mapped, special] at refused
    cases refused
  · intro unmapped request ip accepted
    obtain ⟨short, nonzero, _, parsed, plain⟩ := validateOperation_ok.mp accepted
    rcases toCanonical_cases ip with same | ⟨address, rfl⟩
    · rw [same]
      exact plain
    · rw [toCanonical_mapped]
      rw [← Bool.not_eq_true]
      exact fun special => unmapped ⟨short, nonzero, address, parsed, special⟩

/-- A Task may be granted a mapped spelling of a special address, and the adapter accepts it. -/
def mappedSpec (host : String) : TaskSpec :=
  ⟨"key", "goal", ⟨[], .allow [⟨host, .tcp, 80⟩], []⟩, ⟨60, 1, 1⟩, ⟨[]⟩⟩

set_option maxRecDepth 4000 in
theorem mapped_unspecified_accepted :
    ∃ valid : (mappedSpec "::ffff:0.0.0.0").Valid,
      CapabilityPolicy.evaluate ⟨mappedSpec "::ffff:0.0.0.0", valid⟩
        (.network "::ffff:0.0.0.0" .tcp 80) = .allow ∧
      ¬ ∀ request ip, validateOperation "::ffff:0.0.0.0" 80 request = .ok ip →
        ip.toCanonical.isSpecial = false := by
  refine ⟨by decide +kernel, by decide +kernel, fun safe => ?_⟩
  have accepted : validateOperation "::ffff:0.0.0.0" 80 [] = .ok (mapped 0) := by decide +kernel
  exact absurd (safe [] (mapped 0) accepted) (by decide)

end NetworkAdapter

end AiOs
