import Mathlib.FieldTheory.Finite.Basic
import Mathlib.NumberTheory.LucasPrimality
import SessionHandshake.Key.Rsa
import SessionHandshake.Proofs.Bytes

namespace SessionHandshake

/-!
# What was encrypted can be decrypted

Raising to the private exponent undoes raising to the public one, by Fermat's
theorem for each of the two primes.  Padding never makes a number too large for
the modulus and is found again byte for byte, so every message that leaves room
for it is given back, whatever the padding was.
-/

/-- The numbers of a private key are those of an RSA key. -/
structure RsaPrivateKey.IsGenuine (key : RsaPrivateKey) : Prop where
  firstPrime : key.firstPrime.Prime
  secondPrime : key.secondPrime.Prime
  distinct : key.firstPrime ≠ key.secondPrime
  modulus_eq : key.modulus = key.firstPrime * key.secondPrime
  modulus_odd : key.modulus % 2 = 1
  exponent_odd : key.publicExponent % 2 = 1
  exponent_ge : 3 ≤ key.publicExponent
  exponent_lt : key.publicExponent < key.modulus
  /-- Decryption refuses a private exponent that is longer than the modulus. -/
  private_short : Rsa.byteLength key.privateExponent ≤ Rsa.byteLength key.modulus
  inverse :
    key.publicExponent * key.privateExponent ≡
      1 [MOD Nat.lcm (key.firstPrime - 1) (key.secondPrime - 1)]

/-- A number has no inverse modulo itself. -/
theorem Modular.inverse?_self {number : Nat} (notOne : number ≠ 1) :
    inverse? number number = none := by
  have divisor : bezout (2 * number.log2 + 3 + 1) number 0 0 1 = ((number : Int), 0) := by
    rw [bezout, if_pos rfl]
  have isNot : ¬ (number : Int) = 1 := by
    omega
  have remainder : ((number : Int) % number) = 0 := Int.emod_self
  simp only [inverse?, remainder, divisor, if_neg isNot]

/-! ## What a reader finds out -/

/-- Whatever passes a check is a prime. -/
def PrimalityCheck.IsSound (isPrime : PrimalityCheck) : Prop :=
  ∀ number, isPrime number = true → number.Prime

/-- The check that exactly the primes pass. -/
def PrimalityCheck.exact : PrimalityCheck := fun number =>
  decide number.Prime

theorem PrimalityCheck.exact_isSound : exact.IsSound :=
  fun _ passes => of_decide_eq_true passes

/-- The parts of a private key belong together, as reading a key finds out. -/
structure RsaPrivateKey.IsCoherent (isPrime : PrimalityCheck) (key : RsaPrivateKey) : Prop where
  haveRoom : ∀ number ∈ key.numbers, Rsa.hasRoomFor number = true
  first_odd : key.firstPrime % 2 = 1
  second_odd : key.secondPrime % 2 = 1
  first_passes : isPrime key.firstPrime = true
  second_passes : isPrime key.secondPrime = true
  modulus_eq : key.modulus = key.firstPrime * key.secondPrime
  exponent_odd : key.publicExponent % 2 = 1
  exponent_gt : 1 < key.publicExponent
  inverse :
    key.privateExponent * key.publicExponent ≡
      1 [MOD Nat.lcm (key.firstPrime - 1) (key.secondPrime - 1)]
  coefficient : Modular.inverse? key.secondPrime key.firstPrime = some key.coefficient

theorem RsaPrivateKey.isCoherent_of_isConsistent
    {isPrime : PrimalityCheck}
    {key : RsaPrivateKey}
    (consistent : key.isConsistent isPrime = true) :
    key.IsCoherent isPrime := by
  simp only [isConsistent, Bool.and_eq_true, decide_eq_true_eq] at consistent
  obtain ⟨⟨⟨⟨⟨⟨⟨⟨⟨⟨⟨haveRoom, first_odd⟩, second_odd⟩, first_passes⟩, second_passes⟩,
    modulus_eq⟩, exponent_odd⟩, exponent_gt⟩, inverse⟩, _⟩, _⟩, coefficient⟩ := consistent
  exact {
    haveRoom := List.all_eq_true.mp haveRoom
    first_odd := first_odd
    second_odd := second_odd
    first_passes := first_passes
    second_passes := second_passes
    modulus_eq := modulus_eq
    exponent_odd := exponent_odd
    exponent_gt := exponent_gt
    inverse := inverse
    coefficient := coefficient }

/-- Apart from the check of its factors, a key is found consistent by its numbers alone. -/
theorem RsaPrivateKey.isConsistent_exact
    {key : RsaPrivateKey}
    (belongTogether : key.isConsistent (fun _ => true) = true)
    (firstPrime : key.firstPrime.Prime)
    (secondPrime : key.secondPrime.Prime) :
    key.isConsistent PrimalityCheck.exact = true := by
  have first_passes : PrimalityCheck.exact key.firstPrime = true := decide_eq_true firstPrime
  have second_passes : PrimalityCheck.exact key.secondPrime = true := decide_eq_true secondPrime
  simpa only [isConsistent, first_passes, second_passes] using belongTogether

/--
A key is genuine if its parts belong together, as reading a key finds out with a sound
check, and if its exponents are not too long, which reading a private key does not ask.
-/
theorem RsaPrivateKey.isGenuine_of_isConsistent
    {isPrime : PrimalityCheck}
    {key : RsaPrivateKey}
    (sound : isPrime.IsSound)
    (consistent : key.isConsistent isPrime = true)
    (exponent_lt : key.publicExponent < key.modulus)
    (private_short : Rsa.byteLength key.privateExponent ≤ Rsa.byteLength key.modulus) :
    key.IsGenuine := by
  have coherent := isCoherent_of_isConsistent consistent
  have exponent_gt := coherent.exponent_gt
  have exponent_odd := coherent.exponent_odd
  have secondPrime := sound key.secondPrime coherent.second_passes
  exact {
    firstPrime := sound key.firstPrime coherent.first_passes
    secondPrime := secondPrime
    distinct := by
      intro same
      have coefficient := coherent.coefficient
      rw [same, Modular.inverse?_self secondPrime.one_lt.ne'] at coefficient
      cases coefficient
    modulus_eq := coherent.modulus_eq
    modulus_odd := by
      rw [coherent.modulus_eq, Nat.mul_mod, coherent.first_odd, coherent.second_odd]
    exponent_odd := exponent_odd
    exponent_ge := by omega
    exponent_lt := exponent_lt
    private_short := private_short
    inverse := by
      rw [Nat.mul_comm]
      exact coherent.inverse }

/-! ## Primes -/

namespace Modular

/--
A number is prime if some base has the order of one less than the number, which
powers by squaring can decide once the prime factors of the order are known.
-/
theorem prime_of_power
    {number : Nat}
    (base : Nat)
    (factors : List Nat)
    (covers : ∀ factor, factor.Prime → factor ∣ number - 1 → factor ∈ factors)
    (returns : power base (number - 1) number = 1 % number)
    (notBefore :
      ∀ factor ∈ factors, power base ((number - 1) / factor) number ≠ 1 % number) :
    number.Prime := by
  have isOne_iff (exponent : Nat) :
      (base : ZMod number) ^ exponent = 1 ↔ power base exponent number = 1 % number := by
    rw [power_eq, ← Nat.cast_pow, ← Nat.cast_one, ZMod.natCast_eq_natCast_iff]
    rfl
  refine lucas_primality number base ((isOne_iff _).mpr returns) ?_
  intro factor isPrime divides isOne
  exact notBefore factor (covers factor isPrime divides) ((isOne_iff _).mp isOne)

/-- A number is prime if its order has no prime factors but two and three, and some base has it. -/
theorem prime_of_power_smooth
    {number twos threes : Nat}
    (base : Nat)
    (isSmooth : number = 3 ^ threes * 2 ^ twos + 1)
    (returns : power base (number - 1) number = 1 % number)
    (notBefore :
      ∀ factor ∈ [2, 3], power base ((number - 1) / factor) number ≠ 1 % number) :
    number.Prime := by
  refine prime_of_power base [2, 3] ?_ returns notBefore
  intro factor isPrime divides
  rw [isSmooth, Nat.add_sub_cancel] at divides
  rcases (Nat.Prime.dvd_mul isPrime).mp divides with dividesThree | dividesTwo
  · have isThree :=
      (Nat.prime_dvd_prime_iff_eq isPrime Nat.prime_three).mp
        (isPrime.dvd_of_dvd_pow dividesThree)
    simp [isThree]
  · have isTwo :=
      (Nat.prime_dvd_prime_iff_eq isPrime Nat.prime_two).mp
        (isPrime.dvd_of_dvd_pow dividesTwo)
    simp [isTwo]

end Modular

namespace Rsa

/-! ## Exponents -/

/-- A power whose exponent is one modulo `prime - 1` is the base again modulo the prime. -/
theorem pow_modEq_self
    {prime exponent : Nat}
    (isPrime : prime.Prime)
    (positive : 0 < exponent)
    (isOne : exponent ≡ 1 [MOD prime - 1])
    (base : Nat) :
    base ^ exponent ≡ base [MOD prime] := by
  by_cases divides : prime ∣ base
  · have baseZero : base ≡ 0 [MOD prime] := (Nat.modEq_zero_iff_dvd).mpr divides
    have powerZero : base ^ exponent ≡ 0 [MOD prime] :=
      (Nat.modEq_zero_iff_dvd).mpr (dvd_pow divides (Nat.pos_iff_ne_zero.mp positive))
    exact powerZero.trans baseZero.symm
  · have coprime : base.Coprime prime :=
      ((Nat.Prime.coprime_iff_not_dvd isPrime).mpr divides).symm
    have fermat : base ^ (prime - 1) ≡ 1 [MOD prime] := by
      have byTotient := Nat.ModEq.pow_totient coprime
      rwa [Nat.totient_prime isPrime] at byTotient
    obtain ⟨factor, isMultiple⟩ := (Nat.modEq_iff_dvd' positive).mp isOne.symm
    have exponent_eq : exponent = (prime - 1) * factor + 1 := by
      omega
    calc
      base ^ exponent = (base ^ (prime - 1)) ^ factor * base := by
        rw [exponent_eq, Nat.pow_succ, Nat.pow_mul]
      _ ≡ 1 ^ factor * base [MOD prime] := (fermat.pow factor).mul_right base
      _ = base := by rw [Nat.one_pow, Nat.one_mul]

/-- The private exponent undoes the public one. -/
theorem power_power
    {key : RsaPrivateKey}
    (genuine : key.IsGenuine)
    {number : Nat}
    (small : number < key.modulus) :
    Modular.power (Modular.power number key.publicExponent key.modulus) key.privateExponent
        key.modulus =
      number := by
  have undoes :
      ∀ prime,
        prime.Prime →
        2 < prime →
        prime - 1 ∣ Nat.lcm (key.firstPrime - 1) (key.secondPrime - 1) →
        number ^ (key.publicExponent * key.privateExponent) ≡ number [MOD prime] := by
    intro prime isPrime notTwo divides
    have isOne := genuine.inverse.of_dvd divides
    have positive : 0 < key.publicExponent * key.privateExponent := by
      rcases Nat.eq_zero_or_pos (key.publicExponent * key.privateExponent) with isZero | positive
      · rw [isZero] at isOne
        have oneLt : 1 < prime - 1 := by
          omega
        rw [Nat.ModEq, Nat.zero_mod, Nat.mod_eq_of_lt oneLt] at isOne
        cases isOne
      · exact positive
    exact pow_modEq_self isPrime positive isOne number
  have oddFactors : key.firstPrime ≠ 2 ∧ key.secondPrime ≠ 2 := by
    have isOdd := genuine.modulus_odd
    rw [genuine.modulus_eq] at isOdd
    constructor <;> intro isTwo <;> rw [isTwo] at isOdd <;> omega
  have first := undoes key.firstPrime genuine.firstPrime
    (lt_of_le_of_ne genuine.firstPrime.two_le oddFactors.1.symm) (Nat.dvd_lcm_left _ _)
  have second := undoes key.secondPrime genuine.secondPrime
    (lt_of_le_of_ne genuine.secondPrime.two_le oddFactors.2.symm) (Nat.dvd_lcm_right _ _)
  have coprime : key.firstPrime.Coprime key.secondPrime :=
    (Nat.coprime_primes genuine.firstPrime genuine.secondPrime).mpr genuine.distinct
  have both : number ^ (key.publicExponent * key.privateExponent) ≡ number [MOD key.modulus] := by
    rw [genuine.modulus_eq]
    exact (Nat.modEq_and_modEq_iff_modEq_mul coprime).mp ⟨first, second⟩
  rw [Modular.power_eq, Modular.power_eq]
  calc
    (number ^ key.publicExponent % key.modulus) ^ key.privateExponent % key.modulus =
        (number ^ key.publicExponent) ^ key.privateExponent % key.modulus :=
      ((Nat.mod_modEq _ _).pow key.privateExponent)
    _ = number ^ (key.publicExponent * key.privateExponent) % key.modulus := by
      rw [Nat.pow_mul]
    _ = number % key.modulus := both
    _ = number := Nat.mod_eq_of_lt small

/-! ## Padding -/

theorem pad_length
    {length : Nat}
    {message : Bytes}
    (fits : message.length + 3 ≤ length)
    (padding : PaddingSource) :
    (pad length padding message).length = length := by
  simp only [pad, List.length_append, List.length_map, List.length_range, List.length_cons,
    List.length_nil]
  omega

/-- A padded message begins with a zero byte, so it stands for a small number. -/
theorem numberOf_pad_lt
    {length : Nat}
    {message : Bytes}
    (fits : message.length + 3 ≤ length)
    (padding : PaddingSource) :
    Hash.numberOf (pad length padding message) < 256 ^ (length - 1) := by
  have padded := pad_length fits padding
  obtain ⟨rest, split⟩ : ∃ rest, pad length padding message = 0 :: rest :=
    ⟨_, rfl⟩
  rw [split, List.length_cons] at padded
  have isShorter : length - 1 = rest.length := by
    omega
  rw [split, Hash.numberOf_zero_cons, isShorter]
  exact Hash.numberOf_lt rest

/-- The message is found again after its padding. -/
theorem unpad?_pad
    {length : Nat}
    {message : Bytes}
    (fits : message.length + paddingOverhead ≤ length)
    (padding : PaddingSource) :
    unpad? (pad length padding message) = some message := by
  have room : message.length + 11 ≤ length := fits
  generalize isFiller :
    ((List.range (length - message.length - 3)).map fun index => (padding index).val) = filler
  have enough : 8 ≤ filler.length := by
    rw [← isFiller, List.length_map, List.length_range]
    omega
  have notZero : ∀ byte ∈ filler, byte ≠ 0 := by
    intro byte member
    rw [← isFiller] at member
    obtain ⟨index, _, rfl⟩ := List.mem_map.mp member
    exact (padding index).property
  have taken : (filler ++ 0 :: message).takeWhile (· ≠ 0) = filler := by
    rw [List.takeWhile_append_of_pos]
    · simp
    · intro byte member
      exact decide_eq_true (notZero byte member)
  have padded : pad length padding message = 0x00 :: 0x02 :: (filler ++ 0 :: message) := by
    simp only [pad, isFiller, List.append_assoc, List.cons_append, List.nil_append]
  rw [padded, unpad?]
  simp only [taken]
  rw [if_neg, List.drop_append]
  · simp
  · rw [List.length_append, List.length_cons]
    omega

/-! ## Lengths -/

theorem lt_pow_byteLength (number : Nat) : number < 256 ^ byteLength number := by
  by_cases isZero : number = 0
  · rw [isZero]
    decide
  · have bits : number < 2 ^ (number.log2 + 1) := Nat.lt_log2_self
    have enough : number.log2 + 1 ≤ 8 * byteLength number := by
      rw [byteLength, bitLength, if_neg isZero]
      omega
    calc
      number < 2 ^ (number.log2 + 1) := bits
      _ ≤ 2 ^ (8 * byteLength number) := Nat.pow_le_pow_right (by decide) enough
      _ = 256 ^ byteLength number := by rw [Nat.pow_mul]

theorem pow_byteLength_le {number : Nat} (notZero : number ≠ 0) :
    256 ^ (byteLength number - 1) ≤ number := by
  have enough : 8 * (byteLength number - 1) ≤ number.log2 := by
    rw [byteLength, bitLength, if_neg notZero]
    omega
  calc
    256 ^ (byteLength number - 1) = 2 ^ (8 * (byteLength number - 1)) := by
      rw [Nat.pow_mul]
    _ ≤ 2 ^ number.log2 := Nat.pow_le_pow_right (by decide) enough
    _ ≤ number := Nat.log2_self_le notZero

end Rsa

/-! ## Encryption and decryption -/

/-- Whatever is encrypted for a genuine key is decrypted by it. -/
theorem RsaPrivateKey.IsGenuine.decrypts
    {key : RsaPrivateKey}
    {message : Bytes}
    (genuine : key.IsGenuine)
    (usable : key.publicKey.hasUsableSize = true)
    (fits : message.length + Rsa.paddingOverhead ≤ Rsa.byteLength key.modulus)
    (padding : PaddingSource) :
    ∃ ciphertext,
      key.publicKey.encrypt? padding message = some ciphertext ∧
      ciphertext.length = Rsa.byteLength key.modulus ∧
      ∀ hash, key.decrypt? hash ciphertext = some message := by
  have overhead : message.length + 11 ≤ Rsa.byteLength key.modulus := fits
  have notZero : key.modulus ≠ 0 := by
    have isOdd := genuine.modulus_odd
    intro isZero
    rw [isZero] at isOdd
    cases isOdd
  have room : message.length + 3 ≤ Rsa.byteLength key.modulus := by
    omega
  have length := Rsa.pad_length room padding
  have small : Hash.numberOf (Rsa.pad (Rsa.byteLength key.modulus) padding message) < key.modulus :=
    (Rsa.numberOf_pad_lt room padding).trans_le (Rsa.pow_byteLength_le notZero)
  have unlocked := Rsa.power_power genuine small
  generalize isPower :
    Modular.power (Hash.numberOf (Rsa.pad (Rsa.byteLength key.modulus) padding message))
      key.publicExponent key.modulus = power at unlocked
  have powerSmall : power < key.modulus := by
    rw [← isPower, Modular.power_eq]
    exact Nat.mod_lt _ (Nat.pos_of_ne_zero notZero)
  have powerRead : Hash.numberOf (Hash.bigEndian (Rsa.byteLength key.modulus) power) = power :=
    Hash.numberOf_bigEndian_of_lt (powerSmall.trans (Rsa.lt_pow_byteLength key.modulus))
  refine ⟨Hash.bigEndian (Rsa.byteLength key.modulus) power, ?_, Hash.bigEndian_length _ _, ?_⟩
  · have possible :
        message.length + Rsa.paddingOverhead ≤ key.publicKey.ciphertextLength ∧
          key.publicKey.hasUsableSize = true ∧ key.publicKey.modulus % 2 = 1 :=
      ⟨fits, usable, genuine.modulus_odd⟩
    rw [RsaPublicKey.encrypt?]
    simp only [if_pos possible]
    rw [← isPower]
    rfl
  · intro hash
    have padded :
        key.unlock (Hash.bigEndian (Rsa.byteLength key.modulus) power) =
          Rsa.pad (Rsa.byteLength key.modulus) padding message := by
      rw [RsaPrivateKey.unlock, powerRead, unlocked]
      have written :=
        Hash.bigEndian_numberOf (Rsa.pad (Rsa.byteLength key.modulus) padding message)
      rwa [length] at written
    rw [RsaPrivateKey.decrypt?, if_pos, padded, Rsa.unpad?_pad fits, Option.getD_some]
    refine ⟨Hash.bigEndian_length _ _, ?_, genuine.private_short⟩
    rw [powerRead]
    exact powerSmall

end SessionHandshake
