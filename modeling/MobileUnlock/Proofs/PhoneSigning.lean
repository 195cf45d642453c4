import MobileUnlock.Android.BiometricManager
import MobileUnlock.Proofs.PhoneChallenge
import MobileUnlock.Proofs.SignatureEncoding

/-!
# `MobileUnlock.Proofs.PhoneSigning`: what the phone signs, and with which key

Calls of `signAuthChallenge` overlap. Each shows a prompt, and the prompts end in any order, with
the signature object of any of them. What holds of all interleavings:

* a call is answered once or its prompt is still open, and a signature that it gets is one of its
  own message (`signed_own_message`);
* all signatures are made with one key, and it is the key that the phone hands out, unless
  `containsAlias` throws while there is a key and the next one is generated over it
  (`one_identity_key`). The check of `ensureKeyReady` takes the exception for a missing key;
* once the enrolment of the phone has changed, no later call is ever signed, since `ensureKeyReady`
  keeps the invalidated key and no call of the app removes it (`invalidated_never_signs`).
-/

set_option autoImplicit false

namespace MobileUnlock.Android

open MobileUnlock.Lib MobileUnlock.Android.DerToP1363Converter

/-! ### The errors -/

/-- The exception of the service has the code of the channel. -/
theorem code_mapPlatformException (e : ChannelError) : (mapPlatformException e).code = e.code := by
  unfold mapPlatformException
  repeat' split
  all_goals first | exact (Eq.symm ‹_›) | rfl

/-! ### One step -/

section Step
variable {device : Device} {keys : SigningKeys}

/-- The payload is the message of the call with a signature of it under the key. -/
def SignedUnder (keys : SigningKeys) (key : Nat) (call : SigningCall) (payload : Bytes) : Prop :=
  ∃ message randomness signature, call.canonicalBytes = .ok message ∧
    derToP1363 (keys.sign key message randomness) = .ok signature ∧ payload = message ++ signature

/-- A success of a callback is a signature of its payload. -/
theorem onAuthenticationSucceeded_ok {payload signature : Bytes} {key : Option Nat}
    {answer : SignAnswer}
    (h : onAuthenticationSucceeded keys payload key answer = .ok signature) :
    ∃ key' randomness, key = some key' ∧
      derToP1363 (keys.sign key' payload randomness) = .ok signature ∧ signature.length = 64 := by
  unfold onAuthenticationSucceeded at h
  split at h
  · cases h
  next key' =>
    cases answer with
    | SignatureException => cases h
    | throws simpleName => cases h
    | signs randomness =>
      dsimp only at h
      split at h
      · cases h
      · cases h
      next hconverted =>
        split at h
        · cases h
        next hlength =>
          cases h
          exact ⟨key', randomness, rfl, hconverted, not_not.mp hlength⟩

/-- A call whose answer is an error throws it. -/
theorem result_error (call : SigningCall) (e : BiometricSecurityException) :
    ∃ e', call.result (.error e) = .error e' := by
  unfold SigningCall.result signAuthChallenge
  cases buildCanonicalSignedMessage call.challenge.serverIdentity call.deviceIdentity
      call.requestId call.challenge.sessionId call.challenge.nonce call.challenge.timestamp with
  | error e' => exact ⟨_, rfl⟩
  | ok message => exact ⟨_, rfl⟩

/-- The prompt of a call: it has the payload of the call, and one of the keys so far. -/
structure PromptOf (calls : List SigningCall) (generated : Nat) (prompt : Prompt) : Prop where
  call : calls[prompt.callId]? = some prompt.call
  message : prompt.call.canonicalBytes = .ok prompt.payload
  length : prompt.payload.length = 88
  key : prompt.signatureKey < generated

/-- Where the phone is after some calls. -/
structure SignerInvariant (calls : List SigningCall) (s : PhoneSigner) : Prop where
  count : calls.length = s.calls
  prompts : ∀ prompt ∈ s.prompts, PromptOf calls s.keystore.generated prompt
  key : ∀ entry, s.keystore.entry = some entry → entry.key < s.keystore.generated

/-- The call of an event. -/
def SignerEvent.newCall : SignerEvent → Option SigningCall
  | .signAuthChallenge call _ => some call
  | _ => none

/-- The calls of a run, in their order. -/
def signingCalls (events : List SignerEvent) : List SigningCall :=
  events.filterMap SignerEvent.newCall

/-- The call that an output answers. -/
def SignerOutput.answeredCall : SignerOutput → Option Nat
  | .signed callId _ => some callId
  | _ => none

/-- What the generation of a key leaves. -/
theorem generateWithParams_ok {s s' : Keystore} {useStrongBox : Bool} {answer : GenerateAnswer}
    (h : s.generateWithParams useStrongBox answer = .ok s') :
    s'.generated = s.generated + 1 ∧ ∃ level,
      s'.entry = some { key := s.generated, level := level } := by
  cases answer with
  | generates level =>
    cases h
    exact ⟨rfl, _, rfl⟩
  | StrongBoxUnavailableException message => cases h
  | throws message => cases h

theorem generateKeyPairInternal_ok {s s' : Keystore} {first second : GenerateAnswer}
    (h : s.generateKeyPairInternal device first second = .ok s') :
    s'.generated = s.generated + 1 ∧ ∃ level,
      s'.entry = some { key := s.generated, level := level } := by
  unfold Keystore.generateKeyPairInternal at h
  dsimp only at h
  split at h
  next hfirst =>
    cases h
    exact generateWithParams_ok hfirst
  · split at h
    · exact generateWithParams_ok h
    · cases h
  · cases h

/-- Everything that a call can do: return at once, or show its prompt. -/
theorem signAuthChallenge_cases (s : PhoneSigner) (call : SigningCall) (env : PromptEnv) :
    (∃ e, s.signAuthChallenge call env =
      ({ s with calls := s.calls + 1 }, .signed s.calls (.error e))) ∨
    ∃ payload key, call.canonicalBytes = .ok payload ∧ payload.length = 88 ∧
      s.keystore.initSignatureForSigning env.key = .ok key ∧
      s.signAuthChallenge call env =
        ({ s with
            calls := s.calls + 1
            prompts := s.prompts ++ [{
              callId := s.calls
              call := call
              payload := payload
              signatureKey := key }] }, .silent) := by
  unfold PhoneSigner.signAuthChallenge
  cases hmessage : call.canonicalBytes with
  | error e => exact .inl ⟨_, rfl⟩
  | ok payload =>
    dsimp only
    cases hprompt : signCanonicalMessage s.keystore payload env with
    | error e =>
      obtain ⟨e', he⟩ := result_error call e
      exact .inl ⟨e', by rw [← he]⟩
    | ok key =>
      refine .inr ⟨payload, key, rfl, ?_⟩
      unfold signCanonicalMessage at hprompt
      split at hprompt
      · cases hprompt
      next hlength =>
        refine ⟨not_not.mp hlength, ?_, rfl⟩
        unfold handleSignCanonicalMessage at hprompt
        rw [if_neg hlength] at hprompt
        unfold authenticateAndSign at hprompt
        split at hprompt
        · cases hprompt
        · split at hprompt
          · split at hprompt
            · cases hprompt
            · cases hprompt
          · split at hprompt
            · cases hprompt
            next hkey =>
              split at hprompt
              · cases hprompt
              · cases hprompt
                exact hkey

/-- A key that is ready for the prompt is that of the entry, and it is not invalidated. -/
theorem initSignatureForSigning_ok {s : Keystore} {env : KeyEnv} {key : Nat}
    (h : s.initSignatureForSigning env = .ok key) :
    ∃ entry, s.entry = some entry ∧ entry.key = key ∧ entry.invalidated = false := by
  unfold Keystore.initSignatureForSigning at h
  split at h
  · cases h
  · split at h
    · cases h
    next entry _ hentry =>
      refine ⟨entry, hentry, ?_⟩
      unfold Keystore.initSign at h
      split at h
      · cases h
      next hvalid =>
        split at h
        · cases h
        · cases h
          exact ⟨rfl, Bool.eq_false_iff.mpr hvalid⟩
    · cases h

/-- Everything that the end of a prompt can do. -/
theorem endPrompt_cases (s : PhoneSigner) (index : Nat)
    (answer : Prompt → Except ChannelError Bytes) :
    s.endPrompt index answer = (s, .silent) ∨
    ∃ prompt, s.prompts[index]? = some prompt ∧ prompt.pending = true ∧
      s.endPrompt index answer =
        ({ s with prompts := s.prompts.set index { prompt with pending := false } },
          .signed prompt.callId (prompt.call.result (signatureOf (answer prompt)))) := by
  unfold PhoneSigner.endPrompt
  cases hprompt : s.prompts[index]? with
  | none => exact .inl rfl
  | some prompt =>
    dsimp only
    split
    · exact .inl rfl
    next hpending => exact .inr ⟨prompt, rfl, not_not.mp hpending, rfl⟩

/-- A signed payload comes from a success, and it has the payload of the prompt. -/
theorem result_ok {prompt : Prompt} {key : Option Nat} {answer : SignAnswer} {payload : Bytes}
    (hmessage : prompt.call.canonicalBytes = .ok prompt.payload)
    (hlength : prompt.payload.length = 88)
    (h : prompt.call.result (signatureOf
      (onAuthenticationSucceeded keys prompt.payload key answer)) = .ok payload) :
    ∃ key', key = some key' ∧ SignedUnder keys key' prompt.call payload := by
  cases hanswer : onAuthenticationSucceeded keys prompt.payload key answer with
  | error e =>
    obtain ⟨e', he⟩ := result_error prompt.call (mapPlatformException e)
    rw [hanswer] at h
    change prompt.call.result (.error (mapPlatformException e)) = .ok payload at h
    rw [he] at h
    cases h
  | ok signature =>
    obtain ⟨key', randomness, hkey, hsigned, hsignature⟩ := onAuthenticationSucceeded_ok hanswer
    have hchecked : signatureOf (.ok signature) = .ok signature :=
      if_neg (not_not.mpr hsignature)
    have hresult : prompt.call.result (.ok signature) = .ok (prompt.payload ++ signature) :=
      signAuthChallenge_eq hmessage hlength rfl hsignature
    rw [hanswer, hchecked, hresult] at h
    cases h
    exact ⟨key', hkey, prompt.payload, randomness, signature, hmessage, hsigned, rfl⟩

/-- Everything that a step can do to the prompts. A call returns at once or shows its prompt, and a
prompt ends. The payload of a success is signed with the signature object of a prompt. -/
inductive StepCase (device : Device) (keys : SigningKeys) (s : PhoneSigner) :
    SignerEvent → PhoneSigner × SignerOutput → Prop
  | returned (call : SigningCall) (env : PromptEnv) (error : SigningError) :
      StepCase device keys s (.signAuthChallenge call env)
        ({ s with calls := s.calls + 1 }, .signed s.calls (.error error))
  | shown (call : SigningCall) (env : PromptEnv) (payload : Bytes) (key : Nat)
      (hmessage : call.canonicalBytes = .ok payload) (hlength : payload.length = 88)
      (hkey : s.keystore.initSignatureForSigning env.key = .ok key) :
      StepCase device keys s (.signAuthChallenge call env)
        ({ s with
            calls := s.calls + 1
            prompts := s.prompts ++ [{
              callId := s.calls
              call := call
              payload := payload
              signatureKey := key }] }, .silent)
  | ended (e : SignerEvent) (he : e.newCall = none) (index : Nat) (prompt : Prompt)
      (answer : Except ChannelError Bytes) (hprompt : s.prompts[index]? = some prompt)
      (hpending : prompt.pending = true)
      (hanswer : (∃ error, answer = .error error) ∨ ∃ object signing,
        answer = onAuthenticationSucceeded keys prompt.payload object signing ∧
          ∀ key, object = some key → ∃ shown ∈ s.prompts, shown.signatureKey = key) :
      StepCase device keys s e
        ({ s with prompts := s.prompts.set index { prompt with pending := false } },
          .signed prompt.callId (prompt.call.result (signatureOf answer)))
  | quiet (e : SignerEvent) (he : e.newCall = none) (keystore : Keystore) (output : SignerOutput)
      (hkeystore : keystore = s.keystore ∨ keystore = s.keystore.enrol ∨
        ∃ env, e = .ensureKeyReady env ∧ keystore = (s.keystore.ensureKeyReady device env).1)
      (hanswered : output.answeredCall = none)
      (hpublic : ∀ encoded, output = .publicKey (some encoded) →
        ∃ entry, s.keystore.entry = some entry ∧ encoded = keys.publicKey entry.key) :
      StepCase device keys s e ({ s with keystore := keystore }, output)

theorem step_case (s : PhoneSigner) (e : SignerEvent) :
    StepCase device keys s e ((signerMachine device keys).step s e) := by
  -- Both callbacks that end a prompt go through `endPrompt`. They differ in their answer.
  have hended : ∀ index answer, e.newCall = none →
      (∀ prompt, (∃ error, answer prompt = .error error) ∨ ∃ object signing,
        answer prompt = onAuthenticationSucceeded keys prompt.payload object signing ∧
          ∀ key, object = some key → ∃ shown ∈ s.prompts, shown.signatureKey = key) →
      StepCase device keys s e (s.endPrompt index answer) := by
    intro index answer he hanswer
    obtain hsame | ⟨prompt, hprompt, hpending, hend⟩ := endPrompt_cases s index answer
    · rw [hsame]
      exact .quiet e he s.keystore .silent (.inl rfl) rfl nofun
    · rw [hend]
      exact .ended e he index prompt _ hprompt hpending (hanswer prompt)
  cases e with
  | signAuthChallenge call env =>
    show StepCase device keys s _ (s.signAuthChallenge call env)
    obtain ⟨e, hreturned⟩ | ⟨payload, key, hmessage, hlength, hkey, hshown⟩ :=
      signAuthChallenge_cases s call env
    · rw [hreturned]
      exact .returned call env e
    · rw [hshown]
      exact .shown call env payload key hmessage hlength hkey
  | authenticationSucceeded index cryptoObject answer =>
    refine hended index _ rfl fun prompt => .inr ⟨_, answer, rfl, fun key hkey => ?_⟩
    obtain ⟨object, hobject, rfl⟩ := Option.map_eq_some_iff.mp hkey
    obtain ⟨i, -, hi⟩ := Option.bind_eq_some_iff.mp hobject
    exact ⟨object, List.mem_of_getElem? hi, rfl⟩
  | authenticationError index errorCode errString =>
    exact hended index _ rfl fun prompt => .inl ⟨_, rfl⟩
  | authenticationFailed prompt => exact .quiet _ rfl s.keystore .silent (.inl rfl) rfl nofun
  | ensureKeyReady env => exact .quiet _ rfl _ _ (.inr (.inr ⟨env, rfl, rfl⟩)) rfl nofun
  | getPublicKey found =>
    refine .quiet _ rfl s.keystore _ (.inl rfl) rfl fun encoded houtput => ?_
    obtain ⟨key, hkey, rfl⟩ := Option.map_eq_some_iff.mp (SignerOutput.publicKey.inj houtput)
    unfold Keystore.getPublicKey at hkey
    split at hkey
    · obtain ⟨entry, hentry, rfl⟩ := Option.map_eq_some_iff.mp hkey
      exact ⟨entry, hentry, rfl⟩
    · cases hkey
  | getKeyStatus contains level invalidated =>
    exact .quiet _ rfl s.keystore _ (.inl rfl) rfl nofun
  | biometricEnrolled => exact .quiet _ rfl s.keystore.enrol .silent (.inr (.inl rfl)) rfl nofun

/-! ### The keys -/

/-- `containsAlias` throws in `ensureKeyReady` while there is a key, and another one is generated
over it. -/
def ReplacesKey (device : Device) (s : PhoneSigner) (e : SignerEvent) : Prop :=
  ∃ env, e = .ensureKeyReady env ∧ env.contains = false ∧ s.keystore.entry.isSome ∧
    (s.keystore.generateKeyPairInternal device env.first env.second).isOk

/-- A step leaves the entry to the next one, up to its invalidation, or it makes a key. -/
theorem keystore_step (s : PhoneSigner) (e : SignerEvent) :
    (((signerMachine device keys).step s e).1.keystore.generated = s.keystore.generated ∧
      (((signerMachine device keys).step s e).1.keystore = s.keystore ∨
        ((signerMachine device keys).step s e).1.keystore = s.keystore.enrol)) ∨
    ((signerMachine device keys).step s e).1.keystore.generated = s.keystore.generated + 1 ∧
      (∃ entry, ((signerMachine device keys).step s e).1.keystore.entry = some entry ∧
        entry.key = s.keystore.generated) ∧
      (s.keystore.entry.isSome → ReplacesKey device s e) := by
  have hcase := @step_case device keys s e
  generalize (signerMachine device keys).step s e = r at hcase ⊢
  cases hcase with
  | returned call env error => exact .inl ⟨rfl, .inl rfl⟩
  | shown call env payload key hmessage hlength hkey => exact .inl ⟨rfl, .inl rfl⟩
  | ended _ he index prompt answer hprompt hpending hanswer => exact .inl ⟨rfl, .inl rfl⟩
  | quiet _ he keystore output hkeystore hanswered hpublic =>
    obtain rfl | rfl | ⟨env, rfl, rfl⟩ := hkeystore
    · exact .inl ⟨rfl, .inl rfl⟩
    · exact .inl ⟨rfl, .inr rfl⟩
    · -- Only the generation behind a failed check changes the count.
      by_cases hexists : s.keystore.keyExists env.contains = true
      · rw [Keystore.ensureKeyReady, if_pos hexists]
        exact .inl ⟨rfl, .inl rfl⟩
      · rw [Keystore.ensureKeyReady, if_neg hexists]
        cases hgenerated : s.keystore.generateKeyPairInternal device env.first env.second with
        | error failure => exact .inl ⟨rfl, .inl rfl⟩
        | ok keystore =>
          obtain ⟨hcount, level, hentry⟩ := generateKeyPairInternal_ok hgenerated
          refine .inr ⟨hcount, ⟨_, hentry, rfl⟩, fun hsome => ⟨env, rfl, ?_, hsome, ?_⟩⟩
          · rw [Keystore.keyExists, hsome, Bool.and_true] at hexists
            exact Bool.eq_false_iff.mpr hexists
          · rw [hgenerated]
            rfl

/-- A step that replaces the key makes one. -/
theorem generated_of_replacesKey {s : PhoneSigner} {e : SignerEvent} (h : ReplacesKey device s e) :
    ((signerMachine device keys).step s e).1.keystore.generated = s.keystore.generated + 1 := by
  obtain ⟨env, rfl, hcontains, -, hok⟩ := h
  show (s.keystore.ensureKeyReady device env).1.generated = _
  rw [Keystore.ensureKeyReady, Keystore.keyExists, hcontains, Bool.false_and,
    if_neg Bool.false_ne_true]
  cases hgenerated : s.keystore.generateKeyPairInternal device env.first env.second with
  | error failure =>
    rw [hgenerated] at hok
    cases hok
  | ok keystore => exact (generateKeyPairInternal_ok hgenerated).1

/-- No step takes a key out of the count. -/
theorem generated_mono (s : PhoneSigner) (e : SignerEvent) :
    s.keystore.generated ≤ ((signerMachine device keys).step s e).1.keystore.generated := by
  obtain ⟨hcount, -⟩ | ⟨hcount, -⟩ := @keystore_step device keys s e
  · exact Nat.le_of_eq hcount.symm
  · rw [hcount]
    exact Nat.le_succ _

/-! ### The invariant -/

theorem PromptOf.mono {calls calls' : List SigningCall} {generated generated' : Nat}
    {prompt : Prompt} (h : PromptOf calls generated prompt) (hcalls : calls <+: calls')
    (hgenerated : generated ≤ generated') : PromptOf calls' generated' prompt where
  call := by
    obtain ⟨later, rfl⟩ := hcalls
    rw [List.getElem?_append_left (List.getElem?_eq_some_iff.mp h.call).1]
    exact h.call
  message := h.message
  length := h.length
  key := Nat.lt_of_lt_of_le h.key hgenerated

theorem SignerInvariant.step {calls : List SigningCall} {s : PhoneSigner}
    (h : SignerInvariant calls s) (e : SignerEvent) :
    SignerInvariant (calls ++ e.newCall.toList) ((signerMachine device keys).step s e).1 := by
  have hkeystore := @keystore_step device keys s e
  have hmono := @generated_mono device keys s e
  have hcase := @step_case device keys s e
  generalize (signerMachine device keys).step s e = r at hkeystore hmono hcase ⊢
  -- What holds of a prompt keeps holding when calls and keys are added.
  have hkept : ∀ prompt ∈ s.prompts,
      PromptOf (calls ++ e.newCall.toList) r.1.keystore.generated prompt :=
    fun prompt hmem => (h.prompts prompt hmem).mono (List.prefix_append _ _) hmono
  have hkey : ∀ entry, r.1.keystore.entry = some entry → entry.key < r.1.keystore.generated := by
    intro entry hentry
    obtain ⟨-, hsame | henrolled⟩ | ⟨hcount, ⟨entry', hentry', hnew⟩, -⟩ := hkeystore
    · rw [hsame] at hentry ⊢
      exact h.key entry hentry
    · rw [henrolled] at hentry ⊢
      obtain ⟨entry', hentry', rfl⟩ := Option.map_eq_some_iff.mp hentry
      exact h.key entry' hentry'
    · rw [hentry'] at hentry
      cases hentry
      rw [hcount, hnew]
      exact Nat.lt_succ_self _
  have hcount : r.1.calls = s.calls + e.newCall.toList.length →
      (calls ++ e.newCall.toList).length = r.1.calls := by
    intro hcalls
    rw [List.length_append, h.count, hcalls]
  cases hcase with
  | returned call env error => exact ⟨hcount rfl, hkept, hkey⟩
  | shown call env payload key hmessage hlength hready =>
    refine ⟨hcount rfl, ?_, hkey⟩
    show ∀ prompt ∈ s.prompts ++ [_], PromptOf (calls ++ [call]) s.keystore.generated prompt
    rw [List.forall_mem_append, List.forall_mem_singleton]
    refine ⟨hkept, ?_, hmessage, hlength, ?_⟩
    · show (calls ++ [call])[s.calls]? = some call
      rw [← h.count, List.getElem?_concat_length]
    · obtain ⟨entry, hentry, hentryKey, -⟩ := initSignatureForSigning_ok hready
      exact hentryKey ▸ h.key entry hentry
  | ended _ he index prompt answer hprompt hpending hanswer =>
    refine ⟨hcount (by rw [he]; rfl), fun prompt' hmem => ?_, hkey⟩
    obtain hold | rfl := List.mem_or_eq_of_mem_set hmem
    · exact hkept prompt' hold
    · obtain ⟨hcall, hmessage, hlength, hsignature⟩ := hkept prompt (List.mem_of_getElem? hprompt)
      exact ⟨hcall, hmessage, hlength, hsignature⟩
  | quiet _ he keystore output hkeystore hanswered hpublic =>
    exact ⟨hcount (by rw [he]; rfl), hkept, hkey⟩

/-- A payload that a step returns is signed for its call, under a key so far. -/
theorem SignerInvariant.signed {calls : List SigningCall} {s : PhoneSigner}
    (h : SignerInvariant calls s) {e : SignerEvent} {callId : Nat} {payload : Bytes}
    (hsigned : ((signerMachine device keys).step s e).2 = .signed callId (.ok payload)) :
    ∃ prompt ∈ s.prompts, prompt.callId = callId ∧ ∃ key < s.keystore.generated,
      SignedUnder keys key prompt.call payload := by
  have hcase := @step_case device keys s e
  generalize (signerMachine device keys).step s e = r at hcase hsigned
  cases hcase with
  | returned call env error => cases hsigned
  | shown call env payload' key hmessage hlength hready => cases hsigned
  | ended _ he index prompt answer hprompt hpending hanswer =>
    obtain ⟨rfl, hresult⟩ := SignerOutput.signed.inj hsigned
    have hmem := List.mem_of_getElem? hprompt
    obtain ⟨-, hmessage, hlength, -⟩ := h.prompts prompt hmem
    obtain ⟨error, rfl⟩ | ⟨object, signing, rfl, hobject⟩ := hanswer
    -- An error of the channel is thrown, so the answer is that of a success.
    · obtain ⟨error', herror⟩ := result_error prompt.call (mapPlatformException error)
      change prompt.call.result (.error _) = .ok payload at hresult
      rw [herror] at hresult
      cases hresult
    · obtain ⟨key, hkey, hpayload⟩ := result_ok hmessage hlength hresult
      obtain ⟨shown, hshown, rfl⟩ := hobject key hkey
      exact ⟨prompt, hmem, rfl, _, (h.prompts shown hshown).key, hpayload⟩
  | quiet _ he keystore output hkeystore hanswered hpublic =>
    change output = _ at hsigned
    rw [hsigned] at hanswered
    cases hanswered

/-- The public key that a step hands out is one of the keys so far. -/
theorem SignerInvariant.publicKey {calls : List SigningCall} {s : PhoneSigner}
    (h : SignerInvariant calls s) {e : SignerEvent} {encoded : Bytes}
    (houtput : ((signerMachine device keys).step s e).2 = .publicKey (some encoded)) :
    ∃ key < s.keystore.generated, encoded = keys.publicKey key := by
  have hcase := @step_case device keys s e
  generalize (signerMachine device keys).step s e = r at hcase houtput
  cases hcase with
  | returned call env error => cases houtput
  | shown call env payload key hmessage hlength hready => cases houtput
  | ended _ he index prompt answer hprompt hpending hanswer => cases houtput
  | quiet _ he keystore output hkeystore hanswered hpublic =>
    obtain ⟨entry, hentry, hencoded⟩ := hpublic encoded houtput
    exact ⟨entry.key, h.key entry hentry, hencoded⟩

/-! ### Every call is answered once -/

/-- The calls whose prompts are open. -/
def pendingCalls (s : PhoneSigner) : List Nat := (s.prompts.filter (·.pending)).map (·.callId)

/-- Closing a prompt takes its call out of the open ones. -/
theorem open_set_perm {prompts : List Prompt} {index : Nat} {prompt : Prompt}
    (hprompt : prompts[index]? = some prompt) (hpending : prompt.pending = true) :
    ((prompts.filter (·.pending)).map (·.callId)).Perm
      (prompt.callId ::
        ((prompts.set index { prompt with pending := false }).filter (·.pending)).map
          (·.callId)) := by
  induction prompts generalizing index with
  | nil => cases hprompt
  | cons p ps ih =>
    cases index with
    | zero =>
      cases hprompt
      rw [List.set_cons_zero, List.filter_cons_of_pos hpending,
        List.filter_cons_of_neg Bool.false_ne_true]
      exact List.Perm.refl _
    | succ index =>
      have hrest := ih hprompt
      rw [List.set_cons_succ]
      by_cases hp : p.pending = true
      · rw [List.filter_cons_of_pos hp, List.filter_cons_of_pos hp]
        exact (hrest.cons _).trans (List.Perm.swap _ _ _)
      · rw [List.filter_cons_of_neg hp, List.filter_cons_of_neg hp]
        exact hrest

/-- A step answers a call, or it leaves it open. -/
theorem pendingCalls_step (s : PhoneSigner) (e : SignerEvent) :
    (((signerMachine device keys).step s e).2.answeredCall.toList ++
        pendingCalls ((signerMachine device keys).step s e).1).Perm
      (pendingCalls s ++ if e.newCall.isSome then [s.calls] else []) := by
  have hcase := @step_case device keys s e
  generalize (signerMachine device keys).step s e = r at hcase ⊢
  cases hcase with
  -- A call that returns at once is answered in its own step.
  | returned call env error => exact @List.perm_append_comm _ [s.calls] (pendingCalls s)
  | shown call env payload key hmessage hlength hready =>
    show (((s.prompts ++ [_]).filter Prompt.pending).map Prompt.callId).Perm
      (pendingCalls s ++ [s.calls])
    rw [List.filter_append, List.map_append]
    exact List.Perm.refl _
  | ended _ he index prompt answer hprompt hpending hanswer =>
    rw [he, Option.isSome_none, if_neg Bool.false_ne_true, List.append_nil]
    exact (open_set_perm hprompt hpending).symm
  | quiet _ he keystore output hkeystore hanswered hpublic =>
    rw [he, Option.isSome_none, if_neg Bool.false_ne_true, List.append_nil]
    show (output.answeredCall.toList ++ pendingCalls s).Perm _
    rw [hanswered]
    exact List.Perm.refl _

/-! ### Runs -/

/-- The calls that the steps answer, in the order of the answers. -/
def answeredCalls (steps : List (Entry PhoneSigner SignerEvent SignerOutput)) : List Nat :=
  steps.filterMap fun x => x.output.answeredCall

/-- What holds of the steps so far and the state after them. -/
structure SignerHistory (keys : SigningKeys)
    (steps : List (Entry PhoneSigner SignerEvent SignerOutput)) (s : PhoneSigner) : Prop where
  invariant : SignerInvariant (signingCalls (steps.map (·.event))) s
  answers : (answeredCalls steps ++ pendingCalls s).Perm (List.range s.calls)
  signed : ∀ x ∈ steps, ∀ callId payload, x.output = .signed callId (.ok payload) →
    ∃ call, (signingCalls (steps.map (·.event)))[callId]? = some call ∧
      ∃ key < s.keystore.generated, SignedUnder keys key call payload
  published : ∀ x ∈ steps, ∀ encoded, x.output = .publicKey (some encoded) →
    ∃ key < s.keystore.generated, encoded = keys.publicKey key

theorem filterMap_append_singleton {α β : Type} (f : α → Option β) (xs : List α) (x : α) :
    (xs ++ [x]).filterMap f = xs.filterMap f ++ (f x).toList := by
  rw [List.filterMap_append, List.filterMap_cons]
  cases f x with
  | none => rfl
  | some y => rfl

theorem SignerHistory.step {steps : List (Entry PhoneSigner SignerEvent SignerOutput)}
    {s : PhoneSigner} (h : SignerHistory keys steps s) (e : SignerEvent) :
    SignerHistory keys (steps ++ [(signerMachine device keys).entry s e])
      ((signerMachine device keys).step s e).1 := by
  have hcalls : signingCalls ((steps ++ [(signerMachine device keys).entry s e]).map (·.event)) =
      signingCalls (steps.map (·.event)) ++ e.newCall.toList := by
    rw [List.map_append]
    exact filterMap_append_singleton _ _ _
  have hmono := @generated_mono device keys s e
  refine ⟨?_, ?_, ?_, ?_⟩
  · rw [hcalls]
    exact h.invariant.step e
  · have hanswers := @pendingCalls_step device keys s e
    have hcount := (@SignerInvariant.step device keys _ s h.invariant e).count
    rw [List.length_append, h.invariant.count] at hcount
    have hrange : List.range s.calls ++ (if e.newCall.isSome then [s.calls] else []) =
        List.range (s.calls + e.newCall.toList.length) := by
      cases e.newCall with
      | none => exact List.append_nil _
      | some call => exact List.range_succ.symm
    rw [answeredCalls, filterMap_append_singleton, List.append_assoc, ← hcount, ← hrange]
    refine (hanswers.append_left _).trans ?_
    rw [← List.append_assoc]
    exact h.answers.append_right _
  · rw [hcalls, List.forall_mem_append, List.forall_mem_singleton]
    refine ⟨fun x hx callId payload houtput => ?_, fun callId payload houtput => ?_⟩
    · obtain ⟨call, hcall, key, hkey, hsigned⟩ := h.signed x hx callId payload houtput
      refine ⟨call, ?_, key, Nat.lt_of_lt_of_le hkey hmono, hsigned⟩
      rw [List.getElem?_append_left (List.getElem?_eq_some_iff.mp hcall).1]
      exact hcall
    · obtain ⟨prompt, hmem, rfl, key, hkey, hsigned⟩ := h.invariant.signed houtput
      refine ⟨prompt.call, ?_, key, Nat.lt_of_lt_of_le hkey hmono, hsigned⟩
      have hprompt := (h.invariant.prompts prompt hmem).call
      rw [List.getElem?_append_left (List.getElem?_eq_some_iff.mp hprompt).1]
      exact hprompt
  · rw [List.forall_mem_append, List.forall_mem_singleton]
    refine ⟨fun x hx encoded houtput => ?_, fun encoded houtput => ?_⟩
    · obtain ⟨key, hkey, hencoded⟩ := h.published x hx encoded houtput
      exact ⟨key, Nat.lt_of_lt_of_le hkey hmono, hencoded⟩
    · obtain ⟨key, hkey, hencoded⟩ := h.invariant.publicKey houtput
      exact ⟨key, Nat.lt_of_lt_of_le hkey hmono, hencoded⟩

/-- The history of every run of the phone. -/
theorem signerHistory (device : Device) (keys : SigningKeys) (events : List SignerEvent) :
    SignerHistory keys ((signerMachine device keys).trace {} events)
      ((signerMachine device keys).run {} events) := by
  refine Machine.history_invariant _ ?_ (fun steps s e h _ => h.step e)
    ((signerMachine device keys).along_true {} events)
  refine ⟨⟨rfl, ?_, ?_⟩, List.Perm.refl _, ?_, ?_⟩
  · exact fun prompt hmem => absurd hmem List.not_mem_nil
  · exact fun entry hentry => by cases hentry
  · exact fun x hmem => absurd hmem List.not_mem_nil
  · exact fun x hmem => absurd hmem List.not_mem_nil

end Step

/-- In every interleaving of calls, prompts and changes of the keys, each call is answered once or
its prompt is still open. The signature in an answer is one of the message of its own call. -/
theorem signed_own_message (device : Device) (keys : SigningKeys) (events : List SignerEvent) :
    (answeredCalls ((signerMachine device keys).trace {} events) ++
        pendingCalls ((signerMachine device keys).run {} events)).Perm
      (List.range (signingCalls events).length) ∧
    ∀ x ∈ (signerMachine device keys).trace {} events, ∀ callId payload,
      x.output = .signed callId (.ok payload) →
      ∃ call, (signingCalls events)[callId]? = some call ∧
        ∃ key < ((signerMachine device keys).run {} events).keystore.generated,
          SignedUnder keys key call payload := by
  have h := signerHistory device keys events
  have hevents := (signerMachine device keys).map_event_trace {} events
  refine ⟨?_, fun x hx callId payload houtput => ?_⟩
  · have hcount := h.invariant.count
    rw [hevents] at hcount
    rw [hcount]
    exact h.answers
  · have hsigned := h.signed x hx callId payload houtput
    rw [hevents] at hsigned
    exact hsigned

/-- No run takes a key out of the count. -/
theorem run_generated_mono (device : Device) (keys : SigningKeys) (s : PhoneSigner)
    (events : List SignerEvent) :
    s.keystore.generated ≤ ((signerMachine device keys).run s events).keystore.generated :=
  (signerMachine device keys).invariant
    (P := fun s' => s.keystore.generated ≤ s'.keystore.generated)
    (fun s' e hs _ => Nat.le_trans hs (generated_mono s' e)) (Nat.le_refl _)
    ((signerMachine device keys).along_true s events)

/-- Without a replacement there is at most one key, and it stays under the alias. -/
theorem along_generated {device : Device} {keys : SigningKeys} {events : List SignerEvent}
    (h : (signerMachine device keys).Along (fun s e => ¬ ReplacesKey device s e) {} events) :
    ((signerMachine device keys).run {} events).keystore.generated ≤ 1 := by
  have hinvariant := (signerMachine device keys).invariant
    (P := fun s => s.keystore.generated = 0 ∨
      s.keystore.generated = 1 ∧ s.keystore.entry.isSome)
    (fun s e hs hkept => ?_) (.inl rfl) h
  · omega
  · obtain ⟨hcount, hsame | henrolled⟩ | ⟨hcount, hentry, hreplaces⟩ :=
      @keystore_step device keys s e
    · rw [hsame]
      exact hs
    · rw [henrolled]
      obtain hnone | ⟨hone, hentry⟩ := hs
      · exact .inl hnone
      · refine .inr ⟨hone, ?_⟩
        show (s.keystore.entry.map _).isSome
        rw [Option.isSome_map]
        exact hentry
    · obtain ⟨entry, hentry, -⟩ := hentry
      obtain hnone | ⟨-, hold⟩ := hs
      · exact .inr ⟨by rw [hcount, hnone], Option.isSome_of_mem hentry⟩
      · exact absurd (hreplaces hold) hkept

/-- There is at most one key exactly when no step of the run replaces one. Then all signatures are
made with this key, and all public keys that are handed out are its public key. -/
theorem one_identity_key (device : Device) (keys : SigningKeys) (events : List SignerEvent) :
    ((signerMachine device keys).Along (fun s e => ¬ ReplacesKey device s e) {} events ↔
      ((signerMachine device keys).run {} events).keystore.generated ≤ 1) ∧
    ((signerMachine device keys).Along (fun s e => ¬ ReplacesKey device s e) {} events →
      ∃ key, ∀ x ∈ (signerMachine device keys).trace {} events,
        (∀ callId payload, x.output = .signed callId (.ok payload) →
          ∃ call, (signingCalls events)[callId]? = some call ∧
            SignedUnder keys key call payload) ∧
        ∀ encoded, x.output = .publicKey (some encoded) → encoded = keys.publicKey key) := by
  refine ⟨⟨along_generated, fun hone => ?_⟩, fun hkept => ⟨0, fun x hx => ⟨?_, ?_⟩⟩⟩
  · -- A replacement finds a key, so it leaves two.
    by_contra hreplaced
    obtain ⟨before, e, after, rfl, -, hreplaces⟩ :=
      (signerMachine device keys).exists_of_not_along hreplaced
    have hreplaces := not_not.mp hreplaces
    have hnew := @generated_of_replacesKey device keys _ _ hreplaces
    obtain ⟨-, -, -, hsome, -⟩ := hreplaces
    obtain ⟨entry, hentry⟩ := Option.isSome_iff_exists.mp hsome
    have hold := (signerHistory device keys before).invariant.key entry hentry
    have hlater := run_generated_mono device keys
      ((signerMachine device keys).step ((signerMachine device keys).run {} before) e).1 after
    rw [Machine.run_append, Machine.run_cons] at hone
    omega
  · intro callId payload houtput
    have hsigned := (signerHistory device keys events).signed x hx callId payload houtput
    rw [Machine.map_event_trace] at hsigned
    obtain ⟨call, hcall, key, hkey, hsigned⟩ := hsigned
    have hzero : key = 0 := Nat.lt_one_iff.mp (Nat.lt_of_lt_of_le hkey (along_generated hkept))
    exact ⟨call, hcall, hzero ▸ hsigned⟩
  · intro encoded houtput
    obtain ⟨key, hkey, rfl⟩ := (signerHistory device keys events).published x hx encoded houtput
    have hzero : key = 0 := Nat.lt_one_iff.mp (Nat.lt_of_lt_of_le hkey (along_generated hkept))
    rw [hzero]

/-- A step with an invalidated key that does not replace it. It stays, and a call is refused at
once, so no prompt is added. -/
theorem invalidated_step {device : Device} (keys : SigningKeys) {s : PhoneSigner}
    {entry : KeystoreEntry} (hentry : s.keystore.entry = some entry)
    (hinvalidated : entry.invalidated = true) {e : SignerEvent} (hkept : ¬ ReplacesKey device s e) :
    (∃ entry', ((signerMachine device keys).step s e).1.keystore.entry = some entry' ∧
      entry'.invalidated = true) ∧
    (∀ call env, e = .signAuthChallenge call env →
      ∃ callId error, ((signerMachine device keys).step s e).2 = .signed callId (.error error)) ∧
    ((signerMachine device keys).step s e).1.prompts.map (·.callId) =
      s.prompts.map (·.callId) := by
  have hkeystore := @keystore_step device keys s e
  have hcase := @step_case device keys s e
  generalize (signerMachine device keys).step s e = r at hkeystore hcase ⊢
  have hstays : ∃ entry', r.1.keystore.entry = some entry' ∧ entry'.invalidated = true := by
    obtain ⟨-, hsame | henrolled⟩ | ⟨-, -, hreplaces⟩ := hkeystore
    · rw [hsame]
      exact ⟨entry, hentry, hinvalidated⟩
    · rw [henrolled, Keystore.enrol, hentry]
      exact ⟨_, rfl, rfl⟩
    · exact absurd (hreplaces (hentry ▸ rfl)) hkept
  refine ⟨hstays, ?_⟩
  cases hcase with
  | returned call env error => exact ⟨fun _ _ _ => ⟨s.calls, error, rfl⟩, rfl⟩
  | shown call env payload key hmessage hlength hready =>
    -- A prompt needs a signature object, and `initSign` refuses the key.
    obtain ⟨entry', hentry', -, hvalid⟩ := initSignatureForSigning_ok hready
    rw [hentry] at hentry'
    cases hentry'
    rw [hinvalidated] at hvalid
    cases hvalid
  | ended _ he index prompt answer hprompt hpending hanswer =>
    refine ⟨fun call env hcall => ?_, ?_⟩
    · rw [hcall] at he
      cases he
    · obtain ⟨hindex, rfl⟩ := List.getElem?_eq_some_iff.mp hprompt
      show (s.prompts.set index _).map (·.callId) = _
      rw [List.map_set]
      exact (congrArg _ (List.getElem_map _).symm).trans
        (List.set_getElem_self ((List.length_map _).symm ▸ hindex))
  | quiet _ he keystore output hkeystore hanswered hpublic =>
    refine ⟨fun call env hcall => ?_, rfl⟩
    rw [hcall] at he
    cases he

/-- Once the key is invalidated, and as long as no step replaces it, every call is refused at once.
What is still signed is a call from before, whose prompt was open. -/
theorem invalidated_never_signs (device : Device) (keys : SigningKeys)
    {pre post : List SignerEvent} {entry : KeystoreEntry}
    (hentry : ((signerMachine device keys).run {} pre).keystore.entry = some entry)
    (hinvalidated : entry.invalidated = true)
    (hkept : (signerMachine device keys).Along (fun s e => ¬ ReplacesKey device s e)
      ((signerMachine device keys).run {} pre) post) :
    ∀ x ∈ (signerMachine device keys).trace ((signerMachine device keys).run {} pre) post,
      (∀ call env, x.event = .signAuthChallenge call env →
        ∃ callId error, x.output = .signed callId (.error error)) ∧
      ∀ callId payload, x.output = .signed callId (.ok payload) →
        callId < ((signerMachine device keys).run {} pre).calls := by
  have hbefore := (signerHistory device keys pre).invariant
  intro x hx
  obtain ⟨_, _, hsplit⟩ := List.append_of_mem hx
  obtain ⟨done, e, rest, rfl, -, rfl, -⟩ := (signerMachine device keys).trace_split hsplit
  obtain ⟨hdone, hnow, -⟩ := ((signerMachine device keys).along_append _ _ _ _).mp hkept
  -- Up to the step, the key is invalidated and no prompt has been added.
  obtain ⟨⟨entry', hentry', hinvalidated'⟩, hprompts⟩ := (signerMachine device keys).invariant
    (P := fun s => (∃ entry', s.keystore.entry = some entry' ∧ entry'.invalidated = true) ∧
      s.prompts.map (·.callId) =
        ((signerMachine device keys).run {} pre).prompts.map (·.callId))
    (fun s e hs hkept => by
      obtain ⟨⟨entry', hentry', hinvalidated'⟩, hprompts⟩ := hs
      obtain ⟨hstays, -, hsame⟩ := invalidated_step keys hentry' hinvalidated' hkept
      exact ⟨hstays, hsame.trans hprompts⟩)
    ⟨⟨entry, hentry, hinvalidated⟩, rfl⟩ hdone
  refine ⟨(invalidated_step keys hentry' hinvalidated' hnow).2.1, ?_⟩
  intro callId payload houtput
  have hinvariant := (signerHistory device keys (pre ++ done)).invariant
  rw [Machine.run_append] at hinvariant
  obtain ⟨prompt, hmem, rfl, -⟩ := hinvariant.signed houtput
  have hold := List.mem_map_of_mem (f := (·.callId)) hmem
  rw [hprompts] at hold
  obtain ⟨prompt', hmem', hid⟩ := List.mem_map.mp hold
  rw [← hid, ← hbefore.count]
  exact (List.getElem?_eq_some_iff.mp (hbefore.prompts prompt' hmem').call).1

/-- A generation in the trusted environment, where no call throws. -/
def readyEnv : ReadyEnv where
  contains := true
  level := { contains := true, getKey := .returns, keyInfo := true }
  invalidated := { contains := true, getKey := .returns, initSignThrows := none }
  first := .generates .SECURITY_LEVEL_TRUSTED_ENVIRONMENT
  second := .throws ""

/-- A call with fields of the right length. -/
def zeroCall : SigningCall where
  challenge := {
    sessionId := 1
    nonce := List.replicate 32 0
    serverIdentity := List.replicate 16 0
    timestamp := 0 }
  deviceIdentity := List.replicate 16 0
  requestId := 1

/-- A platform where no call throws. -/
def promptEnv : PromptEnv where
  canAuthenticate := .BIOMETRIC_SUCCESS
  status := .BIOMETRIC_SUCCESS
  key := { contains := true, getKey := .returns, initSignThrows := none }
  promptThrows := none

/-- A call before a new enrolment, with its prompt still open. -/
def enrolledEvents : List SignerEvent :=
  [.ensureKeyReady readyEnv, .signAuthChallenge zeroCall promptEnv, .biometricEnrolled]

theorem invalidated_never_signs_enrolledEvents :
    pendingCalls ((signerMachine ⟨30, false⟩ ⟨fun _ _ _ => [], fun _ => []⟩).run {}
      enrolledEvents) = [0] ∧
    ∀ x ∈ (signerMachine ⟨30, false⟩ ⟨fun _ _ _ => [], fun _ => []⟩).trace
        ((signerMachine ⟨30, false⟩ ⟨fun _ _ _ => [], fun _ => []⟩).run {} enrolledEvents)
        [.ensureKeyReady readyEnv, .signAuthChallenge zeroCall promptEnv],
      (∀ call env, x.event = .signAuthChallenge call env →
        ∃ callId error, x.output = .signed callId (.error error)) ∧
      ∀ callId payload, x.output = .signed callId (.ok payload) →
        callId < ((signerMachine ⟨30, false⟩ ⟨fun _ _ _ => [], fun _ => []⟩).run {}
          enrolledEvents).calls := by
  have hentry : ((signerMachine ⟨30, false⟩ ⟨fun _ _ _ => [], fun _ => []⟩).run {}
      enrolledEvents).keystore.entry = some ⟨0, .SECURITY_LEVEL_TRUSTED_ENVIRONMENT, true⟩ := by
    decide +kernel
  refine ⟨by decide +kernel, invalidated_never_signs _ _ hentry rfl ⟨?_, ?_, trivial⟩⟩
  · rintro ⟨env, henv, hcontains, -⟩
    cases henv
    cases hcontains
  · rintro ⟨env, henv, -⟩
    cases henv

end MobileUnlock.Android
