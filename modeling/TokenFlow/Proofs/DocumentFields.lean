/-
# TokenFlow.Proofs.DocumentFields -- which documents are read, and as what

A field of a document is read as what it holds: an `Optional` one is absent or null, or holds a
value that stands for what is read, and each reader of a field succeeds on these and on nothing
else.  A document is read when every known field of it is, so `Metadata.Describes`,
`Grant.Describes` and `Refusal.Describes` tell field by field what an issuer may publish and
what a token endpoint may grant or refuse with.
-/
import TokenFlow.Document.Grant
import TokenFlow.Document.Metadata

namespace TokenFlow.Document

set_option autoImplicit false

open TokenFlow.Json

/-! ## Checked values -/

theorem Checked.seq_eq_ok {α β : Type} {first : Checked (α → β)} {second : Checked α} {value : β}
    (both : first <*> second = .ok value) :
    ∃ make part, first = .ok make ∧ second = .ok part ∧ value = make part := by
  cases first <;> cases second <;> cases both
  exact ⟨_, _, rfl, rfl, rfl⟩

theorem Checked.map_eq_ok {α β : Type} {make : α → β} {first : Checked α} {value : β}
    (mapped : make <$> first = .ok value) : ∃ part, first = .ok part ∧ value = make part := by
  cases first <;> cases mapped
  exact ⟨_, rfl, rfl⟩

/-! ## Fields -/

/-- A field that may be absent, null, or a value that stands for something. -/
inductive Optional {α : Type} (Stands : Value → α → Prop) : Option Value → Option α → Prop
  | absent : Optional Stands none none
  | null : Optional Stands (some .null) none
  | held {value : Value} {held : α} (stands : Stands value held) :
      Optional Stands (some value) (some held)

def OptionalText : Option Value → Option String → Prop :=
  Optional fun value text => value = .string text

def OptionalTexts : Option Value → Option (List String) → Prop :=
  Optional fun value texts => value = .array (texts.map .string)

def OptionalWhole : Option Value → Option Int → Prop :=
  Optional fun value n => WholeNumber.ofValue value = .ok n

namespace Fields

variable {fields : Fields} {name : String}

theorem optionalText_eq_ok_iff {held : Option String} :
    fields.optionalText name = .ok held ↔ OptionalText (fields.lookup name) held := by
  unfold optionalText
  constructor
  · intro read
    split at read
    · cases read
      rename_i absent
      rw [absent]
      exact .absent
    · cases read
      rename_i null
      rw [null]
      exact .null
    · cases read
      rename_i text found
      rw [found]
      exact .held rfl
    · cases read
  · intro holds
    generalize fields.lookup name = field at holds
    cases holds with
    | absent => rfl
    | null => rfl
    | held stands =>
        subst stands
        rfl

theorem requiredText_eq_ok_iff {text : String} :
    fields.requiredText name = .ok text ↔ fields.lookup name = some (.string text) := by
  unfold requiredText
  constructor
  · intro read
    split at read
    · cases read
    · cases read
      assumption
    · cases read
  · intro found
    rw [found]

/-- A list is read as its items when all of them are texts. -/
theorem itemTexts_eq_ok_iff {index : Nat} {items : List Value} {texts : List String} :
    itemTexts name index items = .ok texts ↔ items = texts.map .string := by
  induction items generalizing index texts with
  | nil =>
      constructor
      · intro read
        cases read
        rfl
      · intro same
        rw [List.map_eq_nil_iff.mp same.symm]
        rfl
  | cons item items ih =>
      constructor
      · intro read
        obtain ⟨_, rest, head, tail, rfl⟩ := Checked.seq_eq_ok read
        obtain ⟨text, first, rfl⟩ := Checked.map_eq_ok head
        split at first
        · cases first
          rw [List.map_cons, ih.mp tail]
        · cases first
      · intro same
        cases texts with
        | nil => cases same
        | cons text texts =>
            obtain ⟨rfl, rest⟩ := List.cons.inj same
            rw [itemTexts, ih.mpr rest]
            rfl

theorem optionalTexts_eq_ok_iff {held : Option (List String)} :
    fields.optionalTexts name = .ok held ↔ OptionalTexts (fields.lookup name) held := by
  unfold optionalTexts
  constructor
  · intro read
    split at read
    · cases read
      rename_i absent
      rw [absent]
      exact .absent
    · cases read
      rename_i null
      rw [null]
      exact .null
    · rename_i items found
      obtain ⟨texts, inside, rfl⟩ := Checked.map_eq_ok read
      rw [found, itemTexts_eq_ok_iff.mp inside]
      exact .held rfl
    · cases read
  · intro holds
    generalize fields.lookup name = field at holds
    cases holds with
    | absent => rfl
    | null => rfl
    | @held value texts stands =>
        subst stands
        show some <$> itemTexts name 0 (texts.map .string) = .ok (some texts)
        rw [itemTexts_eq_ok_iff.mpr rfl]
        rfl

theorem optionalWhole_eq_ok_iff {held : Option Int} :
    fields.optionalWhole name = .ok held ↔ OptionalWhole (fields.lookup name) held := by
  unfold optionalWhole
  constructor
  · intro read
    split at read
    · cases read
      rename_i absent
      rw [absent]
      exact .absent
    · cases read
      rename_i null
      rw [null]
      exact .null
    · rename_i value _ _ found
      split at read
      · rename_i n reads
        cases read
        rw [found]
        exact .held reads
      · cases read
  · intro holds
    generalize fields.lookup name = field at holds
    cases holds with
    | absent => rfl
    | null => rfl
    | @held value n reads =>
        cases value with
        | null => cases reads
        | bool | integer | real | string | array | object => simp only [reads]

end Fields

/-! ## Documents -/

/-- A document that is read is an object, and its fields are read. -/
theorem ofFields_of_read {α : Type} {ofFields : Fields → Checked α} {body : List UInt8}
    {fields : Fields} {result : α} (object : Value.ofOctets? body = some (.object fields))
    (came : read ofFields body = .ok result) : ofFields fields = .ok result := by
  rw [read, readFields, object] at came
  dsimp only at came
  cases formed : ofFields fields with
  | ok value =>
      rw [formed] at came
      exact congrArg _ (Except.ok.inj came)
  | bad issues =>
      rw [formed] at came
      cases came

/-- A body is read when it is an object whose fields are. -/
theorem read_eq_ok_iff {α : Type} {ofFields : Fields → Checked α} {body : List UInt8}
    {result : α} :
    read ofFields body = .ok result ↔
      ∃ fields, Value.ofOctets? body = some (.object fields) ∧ ofFields fields = .ok result := by
  constructor
  · intro came
    have object : ∃ fields, Value.ofOctets? body = some (.object fields) := by
      unfold read readFields at came
      split at came
      · cases came
      · rename_i fields object
        split at object
        · cases object
        · rename_i found
          exact ⟨_, found⟩
        · cases object
    obtain ⟨fields, object⟩ := object
    exact ⟨fields, object, ofFields_of_read object came⟩
  · rintro ⟨fields, object, formed⟩
    rw [read, readFields, object]
    dsimp only
    rw [formed]
    rfl

namespace Metadata

/-- The members of an object describe an issuer: each known one is absent, null, or what it
should be. -/
structure Describes (fields : Fields) (metadata : Metadata) : Prop where
  issuer : OptionalText (fields.lookup "issuer") metadata.issuer
  authorizationEndpoint :
    OptionalText (fields.lookup "authorization_endpoint") metadata.authorizationEndpoint
  tokenEndpoint : OptionalText (fields.lookup "token_endpoint") metadata.tokenEndpoint
  userinfoEndpoint : OptionalText (fields.lookup "userinfo_endpoint") metadata.userinfoEndpoint
  keySetUri : OptionalText (fields.lookup "jwks_uri") metadata.keySetUri
  scopes : OptionalTexts (fields.lookup "scopes_supported") metadata.scopes
  challengeMethods :
    OptionalTexts (fields.lookup "code_challenge_methods_supported") metadata.challengeMethods
  extra : metadata.extra = fields.others knownFields

theorem ofFields_eq_ok_iff {fields : Fields} {metadata : Metadata} :
    ofFields fields = .ok metadata ↔ Describes fields metadata := by
  constructor
  · intro formed
    obtain ⟨_, extra, upToMethods, others, rfl⟩ := Checked.seq_eq_ok formed
    obtain ⟨_, methods, upToScopes, readMethods, rfl⟩ := Checked.seq_eq_ok upToMethods
    obtain ⟨_, scopes, upToKeys, readScopes, rfl⟩ := Checked.seq_eq_ok upToScopes
    obtain ⟨_, keys, upToUserinfo, readKeys, rfl⟩ := Checked.seq_eq_ok upToKeys
    obtain ⟨_, userinfo, upToToken, readUserinfo, rfl⟩ := Checked.seq_eq_ok upToUserinfo
    obtain ⟨_, token, upToAuthorization, readToken, rfl⟩ := Checked.seq_eq_ok upToToken
    obtain ⟨_, authorization, upToIssuer, readAuthorization, rfl⟩ :=
      Checked.seq_eq_ok upToAuthorization
    obtain ⟨issuer, readIssuer, rfl⟩ := Checked.map_eq_ok upToIssuer
    cases others
    exact {
      issuer := Fields.optionalText_eq_ok_iff.mp readIssuer
      authorizationEndpoint := Fields.optionalText_eq_ok_iff.mp readAuthorization
      tokenEndpoint := Fields.optionalText_eq_ok_iff.mp readToken
      userinfoEndpoint := Fields.optionalText_eq_ok_iff.mp readUserinfo
      keySetUri := Fields.optionalText_eq_ok_iff.mp readKeys
      scopes := Fields.optionalTexts_eq_ok_iff.mp readScopes
      challengeMethods := Fields.optionalTexts_eq_ok_iff.mp readMethods
      extra := rfl }
  · intro describes
    rw [ofFields, Fields.optionalText_eq_ok_iff.mpr describes.issuer,
      Fields.optionalText_eq_ok_iff.mpr describes.authorizationEndpoint,
      Fields.optionalText_eq_ok_iff.mpr describes.tokenEndpoint,
      Fields.optionalText_eq_ok_iff.mpr describes.userinfoEndpoint,
      Fields.optionalText_eq_ok_iff.mpr describes.keySetUri,
      Fields.optionalTexts_eq_ok_iff.mpr describes.scopes,
      Fields.optionalTexts_eq_ok_iff.mpr describes.challengeMethods, ← describes.extra]
    rfl

theorem ofBody_eq_ok_iff {body : List UInt8} {metadata : Metadata} :
    ofBody body = .ok metadata ↔
      ∃ fields, Value.ofOctets? body = some (.object fields) ∧ Describes fields metadata := by
  simp only [ofBody, read_eq_ok_iff, ofFields_eq_ok_iff]

end Metadata

namespace Grant

/-- The members of an object grant a token. -/
structure Describes (fields : Fields) (grant : Grant) : Prop where
  accessToken : fields.lookup "access_token" = some (.string grant.accessToken)
  tokenType : grant.tokenType = normalTokenType (fields.lookup "token_type")
  expiresIn : OptionalWhole (fields.lookup "expires_in") grant.expiresIn
  scope : OptionalText (fields.lookup "scope") grant.scope
  refreshToken : OptionalText (fields.lookup "refresh_token") grant.refreshToken
  idToken : OptionalText (fields.lookup "id_token") grant.idToken

theorem ofFields_eq_ok_iff {fields : Fields} {grant : Grant} :
    ofFields fields = .ok grant ↔ Describes fields grant := by
  constructor
  · intro formed
    obtain ⟨_, identity, upToRefresh, readIdentity, rfl⟩ := Checked.seq_eq_ok formed
    obtain ⟨_, refresh, upToScope, readRefresh, rfl⟩ := Checked.seq_eq_ok upToRefresh
    obtain ⟨_, scope, upToLifetime, readScope, rfl⟩ := Checked.seq_eq_ok upToScope
    obtain ⟨_, lifetime, upToType, readLifetime, rfl⟩ := Checked.seq_eq_ok upToLifetime
    obtain ⟨_, type, upToToken, readType, rfl⟩ := Checked.seq_eq_ok upToType
    obtain ⟨token, readToken, rfl⟩ := Checked.map_eq_ok upToToken
    cases readType
    exact {
      accessToken := Fields.requiredText_eq_ok_iff.mp readToken
      tokenType := rfl
      expiresIn := Fields.optionalWhole_eq_ok_iff.mp readLifetime
      scope := Fields.optionalText_eq_ok_iff.mp readScope
      refreshToken := Fields.optionalText_eq_ok_iff.mp readRefresh
      idToken := Fields.optionalText_eq_ok_iff.mp readIdentity }
  · intro describes
    rw [ofFields, Fields.requiredText_eq_ok_iff.mpr describes.accessToken,
      ← describes.tokenType, Fields.optionalWhole_eq_ok_iff.mpr describes.expiresIn,
      Fields.optionalText_eq_ok_iff.mpr describes.scope,
      Fields.optionalText_eq_ok_iff.mpr describes.refreshToken,
      Fields.optionalText_eq_ok_iff.mpr describes.idToken]
    rfl

theorem ofBody_eq_ok_iff {body : List UInt8} {grant : Grant} :
    ofBody body = .ok grant ↔
      ∃ fields, Value.ofOctets? body = some (.object fields) ∧ Describes fields grant := by
  simp only [ofBody, read_eq_ok_iff, ofFields_eq_ok_iff]

end Grant

namespace Refusal

/-- The members of an object report an error. -/
structure Describes (fields : Fields) (refusal : Refusal) : Prop where
  error : fields.lookup "error" = some (.string refusal.error)
  description : OptionalText (fields.lookup "error_description") refusal.description
  uri : OptionalText (fields.lookup "error_uri") refusal.uri
  extra : refusal.extra = fields.others ["error", "error_description", "error_uri"]

theorem ofFields_eq_ok_iff {fields : Fields} {refusal : Refusal} :
    ofFields fields = .ok refusal ↔ Describes fields refusal := by
  constructor
  · intro formed
    obtain ⟨_, extra, upToUri, others, rfl⟩ := Checked.seq_eq_ok formed
    obtain ⟨_, uri, upToDescription, readUri, rfl⟩ := Checked.seq_eq_ok upToUri
    obtain ⟨_, description, upToError, readDescription, rfl⟩ :=
      Checked.seq_eq_ok upToDescription
    obtain ⟨error, readError, rfl⟩ := Checked.map_eq_ok upToError
    cases others
    exact {
      error := Fields.requiredText_eq_ok_iff.mp readError
      description := Fields.optionalText_eq_ok_iff.mp readDescription
      uri := Fields.optionalText_eq_ok_iff.mp readUri
      extra := rfl }
  · intro describes
    rw [ofFields, Fields.requiredText_eq_ok_iff.mpr describes.error,
      Fields.optionalText_eq_ok_iff.mpr describes.description,
      Fields.optionalText_eq_ok_iff.mpr describes.uri, ← describes.extra]
    rfl

theorem ofBody_eq_ok_iff {body : List UInt8} {refusal : Refusal} :
    ofBody body = .ok refusal ↔
      ∃ fields, Value.ofOctets? body = some (.object fields) ∧ Describes fields refusal := by
  simp only [ofBody, read_eq_ok_iff, ofFields_eq_ok_iff]

end Refusal

end TokenFlow.Document
