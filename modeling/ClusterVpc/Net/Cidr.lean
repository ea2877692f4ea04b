import ClusterVpc.Net.IP

/-!
# CIDR text and the errors of the Go code

The provider stores a VPC's block as text, and `buildSubnetAddress` reads it
with `net.ParseCIDR`. AWS writes a VPC's primary block as an IPv4 CIDR, so the
text is modelled by its IPv4 reading `a.b.c.d/ones`; every other text is one
`net.ParseCIDR` rejects here. Formatting a four-byte network back to text is
the inverse reading.

The error values the code builds (`errors.New`, `errorUtil.Wrap`, the SDK's
`awserr.Error`, the `net` parse error, the poll timeout) and the three ways a
Go call can end abnormally are declared here, since parsing is the first place
that produces one.
-/

namespace ClusterVpc

open Net

/-- The error values the code creates, wraps and inspects. -/
inductive GoError
  /-- `errorUtil.New(message)`. -/
  | new (message : String)
  /-- `errorUtil.Wrap(cause, message)` with a non-nil cause. -/
  | wrap (cause : GoError) (message : String)
  /-- An `awserr.Error` returned by the SDK, with its `Code()`. -/
  | aws (code message : String)
  /-- `*net.ParseError`. -/
  | parse (type text : String)
  /-- `wait.ErrWaitTimeout`. -/
  | waitTimeout
deriving DecidableEq, Repr

/-- Equality of `(output, err)` results, so that results can be compared by `decide`. -/
instance instDecidableEqExcept {ε α : Type} [DecidableEq ε] [DecidableEq α] :
    DecidableEq (Except ε α)
  | .error a, .error b => if h : a = b then isTrue (h ▸ rfl) else isFalse fun e => h (Except.error.inj e)
  | .ok a, .ok b => if h : a = b then isTrue (h ▸ rfl) else isFalse fun e => h (Except.ok.inj e)
  | .error _, .ok _ => isFalse Except.noConfusion
  | .ok _, .error _ => isFalse Except.noConfusion

/-- The ways a Go call can end other than by returning normally. -/
inductive Abort
  /-- It returned a non-nil error, which its callers pass up. -/
  | error (err : GoError)
  /-- A run-time panic: a nil dereference or an index out of range. -/
  | panic (reason : String)
  /-- A loop with no bound of its own was still running when the model's fuel
  ran out. -/
  | loops
deriving DecidableEq, Repr

/-- The text of a CIDR block. -/
inductive CidrText
  /-- `"a.b.c.d/ones"`. -/
  | ipv4 (a b c d : UInt8) (ones : Nat)
  /-- Any other text, the empty text included. -/
  | other (text : String)
deriving DecidableEq, Repr

@[simp]
theorem Except.ok_bind {ε α β : Type} (a : α) (f : α → Except ε β) : (Except.ok a >>= f) = f a :=
  rfl

@[simp]
theorem Except.error_bind {ε α β : Type} (e : ε) (f : α → Except ε β) :
    (Except.error e >>= f) = Except.error e :=
  rfl

@[simp]
theorem Except.mapError_ok {ε ε' α : Type} (f : ε → ε') (a : α) :
    (Except.ok a : Except ε α).mapError f = .ok a :=
  rfl

@[simp]
theorem Except.mapError_error {ε ε' α : Type} (f : ε → ε') (e : ε) :
    (Except.error e : Except ε α).mapError f = .error (f e) :=
  rfl

/-- The characters of a CIDR text, for the messages that quote it. -/
def CidrText.render : CidrText → String
  | ipv4 a b c d ones =>
    toString a.toNat ++ "." ++ toString b.toNat ++ "." ++ toString c.toNat ++ "." ++
      toString d.toNat ++ "/" ++ toString ones
  | other text => text

/-- `net.ParseCIDR`: the address and the network of an IPv4 CIDR text. -/
def parseCIDR : CidrText → Except GoError (IP × IPNet)
  | .ipv4 a b c d ones =>
    if ones > 8 * ipv4len then .error (.parse "CIDR address" (CidrText.ipv4 a b c d ones).render)
    else
      let m := cidrMask ones (8 * ipv4len)
      .ok (ipv4 a b c d, ⟨(ipv4 a b c d).mask m, m⟩)
  | .other text => .error (.parse "CIDR address" text)

/-- `fmt.Sprintf("%s/%d", ip.String(), ones)` for an address in IPv4 form. -/
def cidrText (ip : IP) (ones : Nat) : CidrText :=
  match ip.to4 with
  | [a, b, c, d] => .ipv4 a b c d ones
  | _ => .other "<nil>"

/-- `IPNet.String`: the CIDR text of a network with a canonical mask. -/
def Net.IPNet.string (n : IPNet) : CidrText :=
  match networkNumberAndMask n with
  | some (nn, m) =>
    match simpleMaskLength m with
    | some ones => cidrText nn ones
    | none => .other "<non-canonical mask>"
  | none => .other "<nil>"

theorem cidrText_ofValue (v ones : Nat) :
    cidrText (ofValue v) ones =
      .ipv4 (v / 2 ^ 24).toUInt8 (v / 2 ^ 16).toUInt8 (v / 2 ^ 8).toUInt8 v.toUInt8 ones := by
  rw [cidrText, to4_of_length_four (length_ofValue v)]
  rfl

/-- An IPv4 CIDR text parses to its address and to the network whose number is
the address rounded down to the block. -/
theorem parseCIDR_ipv4 {a b c d : UInt8} {ones : Nat} (le : ones ≤ 32) :
    parseCIDR (.ipv4 a b c d ones) =
      .ok (ipv4 a b c d,
        ⟨ofValue (IP.value [a, b, c, d] / 2 ^ (32 - ones) * 2 ^ (32 - ones)), cidrMask ones 32⟩) := by
  have masked : (ipv4 a b c d).mask (cidrMask ones 32) =
      ofValue (IP.value [a, b, c, d] / 2 ^ (32 - ones) * 2 ^ (32 - ones)) := by
    rw [mask_of_to4 (by simp) (length_cidrMask le), to4_ipv4, ← value_masked (x := [a, b, c, d]) rfl le,
      ofValue_value (by simp [length_cidrMask le])]
  simp only [parseCIDR, ipv4len, show ¬ ones > 8 * 4 from Nat.not_lt.mpr le, if_false, masked]

theorem parseCIDR_ipv4_of_lt {a b c d : UInt8} {ones : Nat} (gt : 32 < ones) :
    ∃ err, parseCIDR (.ipv4 a b c d ones) = .error err := by
  simp [parseCIDR, ipv4len, show ones > 8 * 4 from gt]

/-- Formatting a network number and parsing it back with a prefix length
rounds the number down to that prefix. -/
theorem parseCIDR_cidrText_ofValue (v : Nat) {ones : Nat} (le : ones ≤ 32) :
    ∃ ip, parseCIDR (cidrText (ofValue v) ones) =
      .ok (ip, ⟨ofValue (v % 2 ^ 32 / 2 ^ (32 - ones) * 2 ^ (32 - ones)), cidrMask ones 32⟩) := by
  rw [cidrText_ofValue, parseCIDR_ipv4 le]
  exact ⟨_, by rw [← value_ofValue]; rfl⟩

/-- The text of a four-byte network with a prefix mask is its number and prefix. -/
theorem string_cidrMask {base : IP} (four : base.length = 4) {p : Nat} (le : p ≤ 32) :
    (IPNet.mk base (cidrMask p 32)).string = cidrText base p := by
  simp [IPNet.string, networkNumberAndMask_four four (length_cidrMask le),
    simpleMaskLength_cidrMask p (Nat.lt_succ_of_le le)]

end ClusterVpc
