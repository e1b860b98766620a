import GrantConfig.Proofs.Overlay
import GrantConfig.Proofs.Requests
import GrantConfig.Proofs.Serialization
import GrantConfig.Provider.Change

/-!
# Where a secret comes from

What a run of steps makes of the secret of a provider is decided by the steps that bring one and by
those that take it away. A secret that is there at the end was there at the beginning or has been
brought by a step, unchanged. Once it has been cleared, or lost by binding the provider anew, it
stays away until a step brings one, and no token request sends it in between.
-/

namespace GrantConfig

/-- The form of a token request has a field for the secret. -/
def TokenRequest.SendsSecret (r : TokenRequest) : Prop :=
  ∃ value, ("client_secret", value) ∈ r.form

namespace Provider

/-! ## Runs -/

/-- What can be asked of a provider without changing it. -/
inductive Question where
  | validate
  | authorizationUrl (state : String)
  | tokenRequest (code : String)
  | userInfoRequest (token : String)
  | serialize
  | display (tall : Bool)

/-- The answer to a question. -/
inductive Answer where
  | validity (outcome : Except ConfigError Unit)
  | consent (outcome : Except ConfigError Uri)
  | exchange (outcome : Except ConfigError TokenRequest)
  | profile (outcome : Except ConfigError UserInfoRequest)
  | text (written : String)

/-- What a provider answers. -/
def answer (p : Provider) : Question → Answer
  | .validate => .validity p.validate
  | .authorizationUrl state => .consent (p.authorizationUrl state)
  | .tokenRequest code => .exchange (p.tokenRequest code)
  | .userInfoRequest token => .profile (p.userInfoRequest token)
  | .serialize => .text p.serialized
  | .display tall => .text (if tall then p.outline.tall else p.outline.compact)

/-- A step with a provider. -/
inductive Step where
  | change (change : Change)
  | ask (question : Question)

/-- The provider after a step, and what it answers. -/
def step (p : Provider) : Step → Provider × List Answer
  | .change change => (p.apply change, [])
  | .ask question => (p, [p.answer question])

/-- The provider after steps in a row, and all that it answers. -/
def run (p : Provider) : List Step → Provider × List Answer
  | [] => (p, [])
  | step :: rest =>
    let (q, answered) := p.step step
    let (r, answers) := q.run rest
    (r, answered ++ answers)

/-- A run is its first step and the run of the others. -/
theorem run_cons (p : Provider) (step : Step) (rest : List Step) :
    p.run (step :: rest) =
      (((p.step step).1.run rest).1, (p.step step).2 ++ ((p.step step).1.run rest).2) := rfl

/-- A run may be cut in two. -/
theorem run_append (p : Provider) (front back : List Step) :
    p.run (front ++ back) =
      (((p.run front).1.run back).1, (p.run front).2 ++ ((p.run front).1.run back).2) := by
  induction front generalizing p with
  | nil => rfl
  | cons step rest ih => simp [run_cons, ih]

namespace Step

/-- The secret that a step brings: one that is set, or that of a base. -/
def secret? : Step → Option String
  | .change (.setClientSecret value) => some value
  | .change (.layOver base) => base.clientSecret
  | _ => none

/-- Whether a step takes the secret away, whatever it is. -/
def removesSecret : Step → Bool
  | .change .clearClientSecret => true
  | .change .rebind => true
  | _ => false

/-- The secret after a step, given the one before it. -/
def secretAfter (held : Option String) : Step → Option String
  | .change (.setClientSecret value) => some value
  | .change .clearClientSecret => none
  | .change (.layOver base) => pick held base.clientSecret
  | .change (.preset _) => nonBlank? held
  | .change .rebind => none
  | _ => held

/-- A secret after a step was there before, or the step has brought it. -/
theorem eq_of_secretAfter {step : Step} {held : Option String} {secret : String}
    (h : step.secretAfter held = some secret) :
    held = some secret ∨ step.secret? = some secret := by
  unfold secretAfter at h
  split at h
  · exact .inr h
  · cases h
  · next base =>
    rw [pick_eq, Option.or_eq_some_iff] at h
    rcases h with hheld | hbase
    · exact .inl (nonBlank?_eq_some.mp hheld).1
    · exact .inr hbase.2
  · exact .inl (nonBlank?_eq_some.mp h).1
  · cases h
  · exact .inl h

/-- A step that removes the secret leaves none. -/
theorem secretAfter_of_removes {step : Step} (h : step.removesSecret = true)
    (held : Option String) : step.secretAfter held = none := by
  unfold removesSecret at h
  split at h
  · rfl
  · rfl
  · cases h

/-- A step that brings no secret leaves none where none is. -/
theorem secretAfter_none {step : Step} (h : step.secret? = none) :
    step.secretAfter none = none := by
  cases hafter : step.secretAfter none with
  | none => rfl
  | some secret =>
    rcases eq_of_secretAfter hafter with hheld | hbrought
    · cases hheld
    · rw [h] at hbrought
      cases hbrought

end Step

/-! ## The secret of a run -/

/-- A provider that is serialized and bound again has lost its secret. -/
theorem rebound_eq (p : Provider) : p.rebound = p.withoutSecret := by
  rw [rebound, ofJson_toJson]

/-- No preset knows a secret. -/
theorem clientSecret_withPreset (p : Provider) (preset : Preset) :
    (p.withPreset preset).clientSecret = nonBlank? p.clientSecret := by
  rw [← pick_none]
  cases preset <;> rfl

/-- A step does with the secret what `Step.secretAfter` says, whatever else it changes. -/
theorem clientSecret_step (p : Provider) (step : Step) :
    (p.step step).1.clientSecret = step.secretAfter p.clientSecret := by
  cases step with
  | ask question => rfl
  | change change =>
    cases change with
    | preset preset => exact p.clientSecret_withPreset preset
    | rebind =>
      change p.rebound.clientSecret = none
      rw [rebound_eq]
      rfl
    | layOver base => rfl
    | setClientSecret value => rfl
    | clearClientSecret => rfl
    | setClientId | setRedirectUri | setTokenPath | setCodePath | setUserInfoPath | setScopes
    | setExtraParams => rfl

/-- A secret at the end of a run was there at its beginning, or one of the steps has brought it. -/
theorem clientSecret_of_run {p : Provider} {steps : List Step} {secret : String}
    (h : (p.run steps).1.clientSecret = some secret) :
    p.clientSecret = some secret ∨ ∃ step ∈ steps, step.secret? = some secret := by
  induction steps generalizing p with
  | nil => exact .inl h
  | cons step rest ih =>
    rw [run_cons] at h
    rcases ih h with hheld | hlater
    · rw [clientSecret_step] at hheld
      rcases Step.eq_of_secretAfter hheld with hbefore | hbrought
      · exact .inl hbefore
      · exact .inr ⟨step, List.mem_cons_self, hbrought⟩
    · obtain ⟨later, hmem, hbrought⟩ := hlater
      exact .inr ⟨later, List.mem_cons_of_mem _ hmem, hbrought⟩

/-- Without a secret, and with no step that brings one, there is none at the end. -/
theorem clientSecret_run_eq_none {p : Provider} {steps : List Step} (hp : p.clientSecret = none)
    (hsteps : ∀ step ∈ steps, step.secret? = none) : (p.run steps).1.clientSecret = none := by
  apply Option.eq_none_iff_forall_ne_some.mpr
  intro secret hsecret
  rcases clientSecret_of_run hsecret with hheld | hbrought
  · rw [hp] at hheld
    cases hheld
  · obtain ⟨step, hstep, hsome⟩ := hbrought
    rw [hsteps step hstep] at hsome
    cases hsome

/-- A step that removes the secret leaves a provider without one. -/
theorem clientSecret_of_removes (p : Provider) {step : Step} (h : step.removesSecret = true) :
    (p.step step).1.clientSecret = none := by
  rw [clientSecret_step, Step.secretAfter_of_removes h]

/-! ## What is sent -/

/-- Without a secret, there is none to be told of. -/
theorem hasClientSecret_eq_false {p : Provider} (h : p.clientSecret = none) :
    p.hasClientSecret = false := by
  rw [hasClientSecret, usableSecret?, h]
  rfl

/-- A provider without a secret sends none. -/
theorem not_sendsSecret {p : Provider} (h : p.clientSecret = none) {code : String}
    {r : TokenRequest} (hr : p.tokenRequest code = .ok r) : ¬r.SendsSecret := by
  obtain ⟨path, endpoint, clientId, _, _, _, rfl⟩ := tokenRequest_eq_ok.mp hr
  have hsecret : p.usableSecret? = none := by
    rw [usableSecret?, h]
    rfl
  simp [TokenRequest.SendsSecret, hsecret]

/-- Without a secret, and with no step that brings one, no token request of the run sends one. -/
theorem not_sendsSecret_of_mem_answers {p : Provider} {steps : List Step}
    (hp : p.clientSecret = none) (hsteps : ∀ step ∈ steps, step.secret? = none) {r : TokenRequest}
    (hr : .exchange (.ok r) ∈ (p.run steps).2) : ¬r.SendsSecret := by
  induction steps generalizing p with
  | nil => cases hr
  | cons step rest ih =>
    obtain ⟨hstep, hrest⟩ := List.forall_mem_cons.mp hsteps
    have hnext : (p.step step).1.clientSecret = none := by
      rw [clientSecret_step, hp, Step.secretAfter_none hstep]
    rw [run_cons, List.mem_append] at hr
    rcases hr with hnow | hlater
    · cases step with
      | change change => cases hnow
      | ask question =>
        have hanswer := List.mem_singleton.mp hnow
        cases question with
        | tokenRequest code => exact not_sendsSecret hp (Answer.exchange.inj hanswer).symm
        | validate | authorizationUrl | userInfoRequest | serialize | display => cases hanswer
    · exact ih hnext hrest hlater

/-- Every secret at the end of a run has been there at its beginning or has been brought by a step.
No secret is there once it has been taken away and no later step has brought one, and neither the
token requests since then nor those of the provider at the end send one. -/
theorem removed_secret_stays_away (p : Provider) (steps : List Step) :
    (∀ secret, (p.run steps).1.clientSecret = some secret →
        p.clientSecret = some secret ∨ ∃ step ∈ steps, step.secret? = some secret) ∧
      ∀ before removal after, steps = before ++ removal :: after → removal.removesSecret = true →
        (∀ step ∈ after, step.secret? = none) →
          (p.run steps).1.clientSecret = none ∧ (p.run steps).1.hasClientSecret = false ∧
          (∀ code r, (p.run steps).1.tokenRequest code = .ok r → ¬r.SendsSecret) ∧
          ∀ r, .exchange (.ok r) ∈ (((p.run before).1.step removal).1.run after).2 →
            ¬r.SendsSecret := by
  constructor
  · intro secret h
    exact clientSecret_of_run h
  · intro before removal after hsteps hremoves hafter
    have hremoved := (p.run before).1.clientSecret_of_removes hremoves
    have hnone : (p.run steps).1.clientSecret = none := by
      rw [hsteps, run_append, run_cons]
      exact clientSecret_run_eq_none hremoved hafter
    refine ⟨hnone, hasClientSecret_eq_false hnone, ?_, ?_⟩
    · intro code r hr
      exact not_sendsSecret hnone hr
    · intro r hr
      exact not_sendsSecret_of_mem_answers hremoved hafter hr

/-- A provider with what the exchange of a code needs, and a secret. -/
def exchangeProvider : Provider where
  clientId := some "a"
  clientSecret := some "s"
  tokenPath := some "https://p.example/token"

/-- Steps that lose the secret and bring none. -/
def losingSteps : List Step :=
  [ .ask (.tokenRequest "x"), .change .rebind, .change (.layOver { clientId := some "b" }),
    .change (.setClientId "c"), .ask (.tokenRequest "y") ]

/-- A request sends the secret before it is lost, and none does afterwards. -/
theorem removed_secret_stays_away_rebound :
    (∃ r, exchangeProvider.tokenRequest "x" = .ok r ∧ r.SendsSecret) ∧
      ∃ r, (exchangeProvider.run losingSteps).1.tokenRequest "x" = .ok r ∧ ¬r.SendsSecret := by
  have hbefore : (exchangeProvider.tokenRequest "x").toOption.map (·.form[3]?) =
      some (some ("client_secret", "s")) := by
    decide +kernel
  have hafter : ((exchangeProvider.run losingSteps).1.tokenRequest "x").toOption.isSome = true := by
    decide +kernel
  obtain ⟨r, hr, hform⟩ := Option.map_eq_some_iff.mp hbefore
  obtain ⟨q, hq⟩ := Option.isSome_iff_exists.mp hafter
  have hlost := ((removed_secret_stays_away exchangeProvider losingSteps).2
    [.ask (.tokenRequest "x")] (.change .rebind) _ rfl rfl (by simp [Step.secret?])).2.2.1
  exact ⟨⟨r, eq_ok_of_toOption hr, "s", List.mem_of_getElem? hform⟩,
    ⟨q, eq_ok_of_toOption hq, hlost "x" q (eq_ok_of_toOption hq)⟩⟩

end Provider

end GrantConfig
