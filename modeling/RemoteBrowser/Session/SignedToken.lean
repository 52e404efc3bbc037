import RemoteBrowser.Json.Data
import RemoteBrowser.Text.Base64
import RemoteBrowser.Text.Utf8

/-!
# Signed tokens, letter by letter

`signToken` and `verifyToken` of `app/token.js` over texts of UTF-16 code units.  HMAC, the JSON
functions of JavaScript and the lenient readers of `Buffer` are parameters with the laws that the
code relies on; the base64url functions and the comparison of the signatures are the source's own.
-/

namespace RemoteBrowser.SignedToken

open Utf16 (ascii isWellFormed)

/-- The library functions of `token.js`. -/
structure TokenPlatform (Number : Type) where
  /-- HMAC-SHA256 of a message under a key. -/
  hmac : List UInt8 → List UInt8 → List UInt8
  /-- `Buffer.from(text, "base64")`. -/
  fromBase64 : List UInt16 → List UInt8
  /-- `buffer.toString("utf8")`. -/
  fromUtf8 : List UInt8 → List UInt16
  stringify : JsonData Number → List UInt16
  parse : List UInt16 → Option (JsonData Number)
  /-- The values that JSON texts can spell. -/
  IsPayload : JsonData Number → Prop
  numberText : Number → List UInt16
  numberTruthy : Number → Bool
  /-- `now > value`, for a value that is not an object. -/
  exceeds : Number → JsonData Number → Bool
  hmac_length : ∀ key message, (hmac key message).length = 32
  fromBase64_encode : ∀ bytes, fromBase64 (Base64.encode bytes) = bytes
  fromUtf8_encode : ∀ text, isWellFormed text → fromUtf8 (Utf8.encode text) = text
  stringify_wellFormed : ∀ payload, isWellFormed (stringify payload)
  stringify_ne_nil : ∀ payload, stringify payload ≠ []
  parse_stringify : ∀ payload, IsPayload payload → parse (stringify payload) = some payload

/-- What the functions throw. -/
inductive Thrown where
  | error (message : String)
  | syntaxError
  | typeError

def dot : UInt16 := 0x2E

/-- Replace every occurrence of a code unit. -/
def replaceUnit (old new : UInt16) (text : List UInt16) : List UInt16 :=
  text.map fun unit => if unit = old then new else unit

/-- The three replacements after `toString("base64")`: of plus signs, of slashes and of the padding
at the end. -/
def toUrlAlphabet (text : List UInt16) : List UInt16 :=
  (replaceUnit 0x2F 0x5F (replaceUnit 0x2B 0x2D text)).rdropWhile (· == Base64.pad)

/-- The text that `base64UrlDecode` hands to `Buffer.from`, with letters replaced and padding. -/
def fromUrlAlphabet (text : List UInt16) : List UInt16 :=
  let normalized := replaceUnit 0x5F 0x2F (replaceUnit 0x2D 0x2B text)
  let padding :=
    if normalized.length % 4 = 0 then []
    else List.replicate (4 - normalized.length % 4) Base64.pad
  normalized ++ padding

def base64UrlEncode (input : List UInt16) : List UInt16 :=
  toUrlAlphabet (Base64.encode (Utf8.encode input))

/-- `left.copy(Buffer.alloc(maxLen, 0))`, if it is shorter. -/
def padBytes (maxLen : ℕ) (bytes : List UInt8) : List UInt8 :=
  bytes ++ List.replicate (maxLen - bytes.length) 0

/-- The comparison of the presented signature with the expected one. -/
def sameSignature (signature expected : List UInt16) : Bool :=
  let left := Utf8.encode signature
  let right := Utf8.encode expected
  let maxLen := max left.length right.length
  left.length = right.length && padBytes maxLen left == padBytes maxLen right

namespace TokenPlatform

variable {Number : Type} (platform : TokenPlatform Number)

def base64UrlDecode (input : List UInt16) : List UInt16 :=
  platform.fromUtf8 (platform.fromBase64 (fromUrlAlphabet input))

def sign (body secret : List UInt16) : List UInt16 :=
  toUrlAlphabet (Base64.encode (platform.hmac (Utf8.encode secret) (Utf8.encode body)))

def signToken (payload : JsonData Number) (secret : List UInt16) : List UInt16 :=
  let body := base64UrlEncode (platform.stringify payload)
  body ++ dot :: platform.sign body secret

/-- `payload.exp && Date.now() > payload.exp`. -/
def hasExpired (now : Number) : JsonData Number → Except Thrown Bool
  | .null => .error .typeError
  | .obj fields =>
      match fields.lookup (ascii "exp") with
      | some exp =>
          if exp.truthy platform.numberTruthy then
            match exp.toPrimitive platform.numberText with
            | some value => .ok (platform.exceeds now value)
            | none => .error .typeError
          else .ok false
      | none => .ok false
  | _ => .ok false

def verifyToken (now : Number) (token secret : List UInt16) :
    Except Thrown (JsonData Number) :=
  match token.splitOn dot with
  | body :: signature :: _ =>
      if body = [] ∨ signature = [] then .error (.error "Malformed token")
      else if sameSignature signature (platform.sign body secret) then
        match platform.parse (platform.base64UrlDecode body) with
        | none => .error .syntaxError
        | some payload =>
            match platform.hasExpired now payload with
            | .ok false => .ok payload
            | .ok true => .error (.error "Token expired")
            | .error thrown => .error thrown
      else .error (.error "Invalid token signature")
  | _ => .error (.error "Malformed token")

end TokenPlatform

/-! ## The base64url functions -/

section Alphabets

theorem replaceUnit_append (old new : UInt16) (first second : List UInt16) :
    replaceUnit old new (first ++ second) =
      replaceUnit old new first ++ replaceUnit old new second :=
  List.map_append

theorem replaceUnit_pad {old new : UInt16} (other : Base64.pad ≠ old) (count : ℕ) :
    replaceUnit old new (List.replicate count Base64.pad) = List.replicate count Base64.pad := by
  rw [replaceUnit, List.map_replicate, if_neg other]

/-- The letters of one alphabet become those of the other. -/
theorem replaceUnit_letters {old new old' new' : UInt16} {values : List ℕ}
    {first second : ℕ → UInt16}
    (small : ∀ bits ∈ values, bits < 64)
    (letters : ∀ bits, bits < 64 → replaceUnit old' new' (replaceUnit old new [first bits]) =
      [second bits]) :
    replaceUnit old' new' (replaceUnit old new (values.map first)) = values.map second := by
  induction values with
  | nil => rfl
  | cons bits rest ih =>
      rw [List.forall_mem_cons] at small
      rw [List.map_cons, ← List.singleton_append, replaceUnit_append, replaceUnit_append,
        letters bits small.1, ih small.2, List.singleton_append, List.map_cons]

theorem rdropWhile_append_pad {text : List UInt16} (clean : ∀ unit ∈ text, unit ≠ Base64.pad)
    (count : ℕ) :
    (text ++ List.replicate count Base64.pad).rdropWhile (· == Base64.pad) = text := by
  induction count with
  | zero =>
      rw [List.replicate_zero, List.append_nil, List.rdropWhile_eq_self_iff]
      intro nonempty
      simpa using clean _ (List.getLast_mem nonempty)
  | succ count ih =>
      rw [List.replicate_succ', ← List.append_assoc,
        List.rdropWhile_concat_pos _ _ _ (by simp), ih]

/-- The URL form consists of the letters of the other alphabet. -/
theorem toUrlAlphabet_encode (bytes : List UInt8) :
    toUrlAlphabet (Base64.encode bytes) = (Base64.sextets bytes).map Base64.urlLetter := by
  have letters : replaceUnit 0x2F 0x5F (replaceUnit 0x2B 0x2D
      ((Base64.sextets bytes).map Base64.standardLetter)) =
        (Base64.sextets bytes).map Base64.urlLetter := by
    apply replaceUnit_letters (Base64.sextets_lt bytes)
    decide
  rw [toUrlAlphabet, Base64.encode, replaceUnit_append, replaceUnit_append, letters,
    replaceUnit_pad (by decide), replaceUnit_pad (by decide), rdropWhile_append_pad]
  intro unit member
  obtain ⟨bits, among, rfl⟩ := List.mem_map.mp member
  exact Base64.urlLetter_ne_pad (Base64.sextets_lt bytes bits among)

theorem fromUrlAlphabet_toUrlAlphabet (bytes : List UInt8) :
    fromUrlAlphabet (toUrlAlphabet (Base64.encode bytes)) = Base64.encode bytes := by
  have letters : replaceUnit 0x5F 0x2F (replaceUnit 0x2D 0x2B
      ((Base64.sextets bytes).map Base64.urlLetter)) =
        (Base64.sextets bytes).map Base64.standardLetter := by
    apply replaceUnit_letters (Base64.sextets_lt bytes)
    decide
  rw [toUrlAlphabet_encode, fromUrlAlphabet, letters, List.length_map, Base64.encode,
    Base64.padding]
  split
  case isTrue whole => simp [whole]
  case isFalse rest =>
    have small : (4 - (Base64.sextets bytes).length % 4) % 4 =
      4 - (Base64.sextets bytes).length % 4 := by omega
    rw [small]

/-- The URL form has letters of ASCII only, and no dot. -/
theorem mem_toUrlAlphabet {bytes : List UInt8} {unit : UInt16}
    (member : unit ∈ toUrlAlphabet (Base64.encode bytes)) : unit.toNat < 0x80 ∧ unit ≠ dot := by
  rw [toUrlAlphabet_encode] at member
  obtain ⟨bits, among, rfl⟩ := List.mem_map.mp member
  have small := Base64.sextets_lt bytes bits among
  exact ⟨UInt16.lt_iff_toNat_lt.mp (Base64.urlLetter_lt small), Base64.urlLetter_ne_dot small⟩

theorem toUrlAlphabet_ne_nil {bytes : List UInt8} (some : bytes ≠ []) :
    toUrlAlphabet (Base64.encode bytes) ≠ [] := by
  rw [toUrlAlphabet_encode, ne_eq, List.map_eq_nil_iff]
  cases bytes using Base64.sextets.induct with
  | case1 => exact List.cons_ne_nil _ _
  | case2 => exact List.cons_ne_nil _ _
  | case3 => exact List.cons_ne_nil _ _
  | case4 => exact absurd rfl some

end Alphabets

/-- The padded comparison is equality, the expected signature being ASCII. -/
theorem sameSignature_iff {signature expected : List UInt16}
    (units : ∀ unit ∈ expected, unit.toNat < 0x80) :
    sameSignature signature expected ↔ signature = expected := by
  constructor
  case mp =>
    intro same
    simp only [sameSignature, Bool.and_eq_true, decide_eq_true_eq, beq_iff_eq] at same
    obtain ⟨length, bytes⟩ := same
    rw [padBytes, padBytes, length, max_self, Nat.sub_self, List.replicate_zero, List.append_nil,
      List.append_nil] at bytes
    exact Utf8.encode_inj_of_ascii units bytes
  case mpr =>
    rintro rfl
    simp [sameSignature]

/-! ## Tokens -/

namespace TokenPlatform

variable {Number : Type} (platform : TokenPlatform Number)

theorem base64UrlDecode_base64UrlEncode {text : List UInt16} (formed : isWellFormed text) :
    platform.base64UrlDecode (base64UrlEncode text) = text := by
  rw [base64UrlDecode, base64UrlEncode, fromUrlAlphabet_toUrlAlphabet,
    platform.fromBase64_encode, platform.fromUtf8_encode text formed]

theorem body_ne_nil (payload : JsonData Number) :
    base64UrlEncode (platform.stringify payload) ≠ [] :=
  toUrlAlphabet_ne_nil (Utf8.encode_ne_nil (platform.stringify_ne_nil payload))

theorem sign_ne_nil (body secret : List UInt16) : platform.sign body secret ≠ [] := by
  apply toUrlAlphabet_ne_nil
  apply List.ne_nil_of_length_pos
  rw [platform.hmac_length]
  decide

theorem sameSignature_sign {signature body secret : List UInt16} :
    sameSignature signature (platform.sign body secret) ↔ signature = platform.sign body secret :=
  sameSignature_iff fun _ member => (mem_toUrlAlphabet member).1

/-- A signed token has two parts. -/
theorem splitOn_signToken (payload : JsonData Number) (secret : List UInt16) :
    (platform.signToken payload secret).splitOn dot =
      [base64UrlEncode (platform.stringify payload),
        platform.sign (base64UrlEncode (platform.stringify payload)) secret] := by
  rw [signToken, List.splitOn_append_cons_self_of_not_mem, List.splitOn_eq_singleton]
  · exact fun member => (mem_toUrlAlphabet member).2 rfl
  · exact fun member => (mem_toUrlAlphabet member).2 rfl

/-- What `verifyToken` does with a payload that it has read. -/
def conclude (now : Number) (payload : JsonData Number) : Except Thrown (JsonData Number) :=
  match platform.hasExpired now payload with
  | .ok false => .ok payload
  | .ok true => .error (.error "Token expired")
  | .error thrown => .error thrown

theorem conclude_ok_iff {now : Number} {payload result : JsonData Number} :
    platform.conclude now payload = .ok result ↔
      platform.hasExpired now payload = .ok false ∧ payload = result := by
  unfold conclude
  split <;> simp [*]

/-- A token with the right signature is judged by the payload that its first part spells. -/
theorem verifyToken_of_parts {now : Number} {token secret body : List UInt16}
    {rest : List (List UInt16)} {payload : JsonData Number}
    (parts : token.splitOn dot = body :: platform.sign body secret :: rest) (filled : body ≠ [])
    (read : platform.parse (platform.base64UrlDecode body) = some payload) :
    platform.verifyToken now token secret = platform.conclude now payload := by
  have same := platform.sameSignature_sign.mpr (rfl : platform.sign body secret = _)
  simp [verifyToken, conclude, parts, filled, platform.sign_ne_nil, same, read]

/-- An accepted token has the signature of its first part as its second one. -/
theorem parts_of_verifyToken {now : Number} {token secret : List UInt16}
    {payload : JsonData Number} (accepted : platform.verifyToken now token secret = .ok payload) :
    ∃ body rest, token.splitOn dot = body :: platform.sign body secret :: rest := by
  unfold verifyToken at accepted
  split at accepted
  case h_1 body signature rest parts =>
    split at accepted
    case isTrue => cases accepted
    case isFalse =>
      split at accepted
      case isTrue same =>
        rw [platform.sameSignature_sign] at same
        exact ⟨body, rest, by rw [parts, same]⟩
      case isFalse => cases accepted
  case h_2 => cases accepted

theorem verifyToken_signToken {now : Number} {secret : List UInt16} {payload : JsonData Number}
    (json : platform.IsPayload payload) :
    platform.verifyToken now (platform.signToken payload secret) secret =
      platform.conclude now payload := by
  apply platform.verifyToken_of_parts (platform.splitOn_signToken payload secret)
    (platform.body_ne_nil payload)
  rw [platform.base64UrlDecode_base64UrlEncode (platform.stringify_wellFormed payload),
    platform.parse_stringify payload json]

/-- The payload has an `exp` that is set and lies before the given time. -/
def IsPast (now : Number) (payload : JsonData Number) : Prop :=
  ∃ fields exp value, payload = .obj fields ∧ fields.lookup (ascii "exp") = some exp ∧
    exp.truthy platform.numberTruthy ∧ exp.toPrimitive platform.numberText = some value ∧
    platform.exceeds now value

/-- An `exp` that is set can be compared with a number. -/
def ExpComparable (payload : JsonData Number) : Prop :=
  ∀ fields exp, payload = .obj fields → fields.lookup (ascii "exp") = some exp →
    exp.truthy platform.numberTruthy → (exp.toPrimitive platform.numberText).isSome

theorem hasExpired_of_comparable {now : Number} {payload : JsonData Number}
    (object : payload ≠ .null) (comparable : platform.ExpComparable payload)
    (future : ¬platform.IsPast now payload) : platform.hasExpired now payload = .ok false := by
  unfold hasExpired
  split
  case h_1 => exact absurd rfl object
  case h_2 fields =>
    cases set : fields.lookup (ascii "exp") with
    | none => rfl
    | some exp =>
        dsimp only
        split
        case isTrue truthy =>
          obtain ⟨value, primitive⟩ :=
            Option.isSome_iff_exists.mp (comparable fields exp rfl set truthy)
          rw [primitive]
          have later : platform.exceeds now value = false := by
            rw [Bool.eq_false_iff]
            exact fun past => future ⟨fields, exp, value, rfl, set, truthy, primitive, past⟩
          exact congrArg Except.ok later
        case isFalse => rfl
  case h_3 => rfl

theorem comparable_of_hasExpired {now : Number} {payload : JsonData Number} {expired : Bool}
    (compared : platform.hasExpired now payload = .ok expired) :
    payload ≠ .null ∧ platform.ExpComparable payload := by
  constructor
  case left =>
    rintro rfl
    cases compared
  case right =>
    rintro fields exp rfl set truthy
    simp only [hasExpired, set, if_pos truthy] at compared
    split at compared
    case h_1 value primitive =>
      rw [primitive]
      rfl
    case h_2 => cases compared

theorem hasExpired_of_isPast {now : Number} {payload : JsonData Number}
    (past : platform.IsPast now payload) : platform.hasExpired now payload = .ok true := by
  obtain ⟨fields, exp, value, rfl, set, truthy, primitive, past⟩ := past
  simp [hasExpired, set, truthy, primitive, past]

/-- The token has two parts, and the first one is what the payload that it spells is encoded as. -/
def IsCanonical (token : List UInt16) : Prop :=
  ∃ body signature payload, token.splitOn dot = [body, signature] ∧
    platform.parse (platform.base64UrlDecode body) = some payload ∧ platform.IsPayload payload ∧
    base64UrlEncode (platform.stringify payload) = body

end TokenPlatform

/-- A signed token is accepted, unless it has expired, exactly if its payload is not `null` and its
`exp` can be compared; an accepted token is one that can be signed exactly if it has two parts, the
first of which is spelled as `signToken` spells it. -/
theorem signed_tokens_are_exact_iff {Number : Type} (platform : TokenPlatform Number) :
    (∀ payload secret now, platform.IsPayload payload →
      ((¬platform.IsPast now payload →
          platform.verifyToken now (platform.signToken payload secret) secret = .ok payload) ↔
        payload ≠ .null ∧ platform.ExpComparable payload)) ∧
    ∀ token secret now payload, platform.verifyToken now token secret = .ok payload →
      ((∃ signed, platform.IsPayload signed ∧ token = platform.signToken signed secret) ↔
        platform.IsCanonical token) := by
  constructor
  case left =>
    intro payload secret now json
    rw [platform.verifyToken_signToken json, platform.conclude_ok_iff]
    constructor
    case mp =>
      intro accepted
      by_cases past : platform.IsPast now payload
      · exact platform.comparable_of_hasExpired (platform.hasExpired_of_isPast past)
      · exact platform.comparable_of_hasExpired (accepted past).1
    case mpr =>
      rintro ⟨object, comparable⟩ future
      exact ⟨platform.hasExpired_of_comparable object comparable future, rfl⟩
  case right =>
    intro token secret now payload accepted
    constructor
    case mp =>
      rintro ⟨signed, json, rfl⟩
      refine ⟨_, _, signed, platform.splitOn_signToken signed secret, ?_, json, rfl⟩
      rw [platform.base64UrlDecode_base64UrlEncode (platform.stringify_wellFormed signed),
        platform.parse_stringify signed json]
    case mpr =>
      rintro ⟨body, signature, signed, parts, -, json, rfl⟩
      obtain ⟨body, rest, others⟩ := platform.parts_of_verifyToken accepted
      rw [parts] at others
      obtain ⟨rfl, others⟩ := List.cons.inj others
      obtain ⟨rfl, -⟩ := List.cons.inj others
      refine ⟨signed, json, ?_⟩
      rw [← @List.intercalate_splitOn _ token _ _ dot, parts]
      simp [List.intercalate, TokenPlatform.signToken]

/-- The library functions for `null` and the empty object, signed with the key `secret`. -/
def samplePlatform : TokenPlatform ℕ where
  hmac _ message :=
    if message = Utf8.encode (ascii "bnVsbA") then
      [26, 101, 185, 183, 245, 47, 111, 55, 167, 78, 111, 19, 70, 89, 115, 170, 88, 218, 57, 43,
        21, 200, 195, 220, 176, 71, 3, 180, 183, 79, 131, 197]
    else
      [42, 114, 151, 94, 33, 216, 63, 220, 223, 124, 229, 214, 109, 195, 144, 227, 195, 234, 0,
        183, 34, 233, 3, 107, 154, 154, 97, 221, 156, 34, 39, 152]
  fromBase64 := Base64.decode
  fromUtf8 := Utf8.decode
  stringify
    | .obj [] => ascii "\x7b\x7d"
    | _ => ascii "null"
  parse text :=
    if text = ascii "\x7b\x7d" then some (.obj [])
    else if text = ascii "null" then some .null
    else none
  IsPayload payload := payload = .null ∨ payload = .obj []
  numberText value := ascii (toString value)
  numberTruthy value := value ≠ 0
  exceeds now
    | .num value => value < now
    | _ => false
  hmac_length _ message := by split <;> rfl
  fromBase64_encode := Base64.decode_encode
  fromUtf8_encode _ := Utf8.decode_encode
  stringify_wellFormed payload := by split <;> decide
  stringify_ne_nil payload := by split <;> decide
  parse_stringify payload json := by rcases json with rfl | rfl <;> rfl

/-- A signed `null` is not accepted, and a signed token is still accepted with a third part. -/
theorem tokens_are_not_exact :
    (samplePlatform.IsPayload .null ∧ ¬samplePlatform.IsPast 0 .null ∧
      samplePlatform.verifyToken 0 (samplePlatform.signToken .null (ascii "secret"))
        (ascii "secret") = .error .typeError) ∧
    samplePlatform.verifyToken 0
        (samplePlatform.signToken (.obj []) (ascii "secret") ++ ascii ".x") (ascii "secret") =
      .ok (.obj []) ∧
    ∀ payload, samplePlatform.signToken payload (ascii "secret") ≠
      samplePlatform.signToken (.obj []) (ascii "secret") ++ ascii ".x" := by
  refine ⟨⟨.inl rfl, nofun, rfl⟩, rfl, ?_⟩
  intro payload same
  have parts := congrArg (List.splitOn dot) same
  have three : ascii ".x" = dot :: ascii "x" := rfl
  rw [three, List.splitOn_append_cons_self, samplePlatform.splitOn_signToken,
    samplePlatform.splitOn_signToken] at parts
  simpa using congrArg List.length parts

end RemoteBrowser.SignedToken
