import Mathlib.Data.List.Nodup
import ClusterEvents.Proofs.Text.Ends
import ClusterEvents.Proofs.Text.Pieces
import ClusterEvents.Settings.Environment

/-!
# Overrides are independent

Every variable has a key and a place in the settings of its own, and settings have no more to them
than these places and the rules. Taking over an environment goes
through the variables one by one, and what it has reached after some of them is told for each
setting by itself (`Overridden`): a setting whose variable was read is the value that its variable
is given, or what it was before if none is given, and all others are as they were. It ends behind
the last variable, or at the first whose text stands for no value.

So no variable has an influence on the setting of another, and settings that have been taken over
from an environment stay as they are when it is taken over again (`overrides_independent`).
-/

namespace ClusterEvents

/-- A blank list has no items. -/
theorem Words.items_eq_nil {raw : String} (h : Text.trim raw = "") : items raw = [] := by
  rw [Text.trim_eq_empty_iff] at h
  refine List.filter_eq_nil_iff.2 fun item hitem => ?_
  simp only [Text.split, List.map_map, List.mem_map, Function.comp_apply] at hitem
  obtain ⟨piece, hpiece, rfl⟩ := hitem
  have hempty : Text.trim (String.ofList piece) = "" := by
    rw [Text.trim_eq_empty_iff, String.toList_ofList]
    exact fun c hc => h c (Text.mem_of_mem_splitOn hpiece hc)
  rw [hempty]
  decide

namespace Variable

variable {env env' : Environment} {s s' : Settings} {v w : Variable}

theorem mem_all (v : Variable) : v ∈ all := by
  cases v <;> decide

theorem nodup_keys : (all.map key).Nodup := by
  decide +kernel

theorem nodup_all : all.Nodup :=
  nodup_keys.of_map key

theorem key_injective : Function.Injective key := fun v w h =>
  List.inj_on_of_nodup_map nodup_keys v.mem_all w.mem_all h

/-! ## Separate places -/

theorem put_get_self (v : Variable) (s : Settings) : v.put (v.get s) s = s := by
  cases v <;> rfl

theorem rules_put (v : Variable) (x : v.Value) (s : Settings) : (v.put x s).rules = s.rules := by
  cases v <;> rfl

/-- The settings with given values of all variables. -/
def assemble (values : (v : Variable) → v.Value) (rules : FieldRules) : Settings where
  source := { kind := values .sourceKind, file := values .sourceFile }
  kafka :=
    { bootstrapServers := values .bootstrapServers, topic := values .topic,
      groupId := values .groupId, clientId := values .clientId,
      clientSecret := values .clientSecret, saslMechanism := values .saslMechanism }
  store :=
    { address := values .address, username := values .username, password := values .password,
      indexPrefix := values .indexPrefix, flushBytes := values .flushBytes,
      flushInterval := values .flushInterval, timeout := values .timeout,
      skipVerify := values .skipVerify }
  snapshots :=
    { backend := values .backend, databasePath := values .databasePath,
      expiration := values .expiration }
  excludedUsers := values .excludedUsers
  delivery :=
    { ackBuffer := values .ackBuffer, bulkBuffer := values .bulkBuffer,
      ordering := values .ordering, maxPending := values .maxPending }
  rules := rules

theorem assemble_get (s : Settings) : assemble (fun v => v.get s) s.rules = s :=
  rfl

/-- Apart from the rules, settings have nothing but the values of variables. -/
theorem settings_ext (hget : ∀ v : Variable, v.get s = v.get s') (hrules : s.rules = s'.rules) :
    s = s' := by
  rw [← assemble_get s, ← assemble_get s', hrules, funext hget]

/-! ## What a variable is given -/

/-- What the environment gives for a variable is its text without the blanks at the ends, if
there is more to it. The list of excluded users is given its text as it is, be it blank. -/
inductive IsGiven (env : Environment) : Variable → String → Prop
  | trimmed {v : Variable} {text : String} (hother : v ≠ .excludedUsers)
      (hset : env v.key = some text) (hfull : Text.trim text ≠ "") : IsGiven env v (Text.trim text)
  | whole {text : String} (hset : env (key .excludedUsers) = some text) :
      IsGiven env .excludedUsers text

theorem given?_eq_some_iff {raw : String} : v.given? env = some raw ↔ v.IsGiven env raw := by
  rw [given?]
  split
  · next husers =>
    subst husers
    constructor
    · exact .whole
    · rintro (⟨hother, -, -⟩ | hset)
      · exact absurd rfl hother
      · exact hset
  · next hother =>
    have hgiven : env.given? v.key = some raw ↔
        ∃ text, env v.key = some text ∧ Text.trim text = raw ∧ raw ≠ "" := by
      simp only [Environment.given?, Option.filter_eq_some_iff, Option.map_eq_some_iff,
        Bool.not_eq_eq_eq_not, Bool.not_true, String.isEmpty_eq_false_iff, ne_eq, exists_and_right,
        ← and_assoc]
    rw [hgiven]
    constructor
    · rintro ⟨text, hset, rfl, hfull⟩
      exact .trimmed hother hset hfull
    · rintro (⟨-, hset, hfull⟩ | hset)
      · exact ⟨_, hset, rfl, hfull⟩
      · exact absurd rfl hother

theorem given?_eq_none_iff : v.given? env = none ↔ ∀ raw, ¬v.IsGiven env raw := by
  simp only [Option.eq_none_iff_forall_ne_some, ne_eq, given?_eq_some_iff]

/-- What a variable is given stands in the environment under the key of the variable. -/
theorem isGiven_congr {raw : String} (h : env v.key = env' v.key) :
    v.IsGiven env raw ↔ v.IsGiven env' raw := by
  simp only [← given?_eq_some_iff, given?, Environment.given?, h]

theorem IsGiven.unique {raw raw' : String} (h : v.IsGiven env raw) (h' : v.IsGiven env raw') :
    raw = raw' :=
  Option.some.inj ((given?_eq_some_iff.2 h).symm.trans (given?_eq_some_iff.2 h'))

/-- The value that a setting has when the environment has been taken over: the one that its
variable is given, or the one it had if its variable is given none. -/
inductive Settles (env : Environment) (s : Settings) (v : Variable) : v.Value → Prop
  | kept (hnone : ∀ raw, ¬v.IsGiven env raw) : Settles env s v (v.get s)
  | taken {raw : String} {x : v.Value} (hgiven : v.IsGiven env raw)
      (hread : v.parse? raw = some x) : Settles env s v x

/-- A setting depends on what it was and on the text of its own variable. -/
theorem Settles.congr {x y : v.Value} (hx : v.Settles env s x) (hy : v.Settles env' s' y)
    (hkey : env v.key = env' v.key) (hget : v.get s = v.get s') : x = y := by
  cases hx with
  | kept hnone =>
      cases hy with
      | kept _ => exact hget
      | taken hgiven _ => exact absurd ((isGiven_congr hkey).2 hgiven) (hnone _)
  | taken hgiven hread =>
      rw [isGiven_congr hkey] at hgiven
      cases hy with
      | kept hnone => exact absurd hgiven (hnone _)
      | taken hgiven' hread' =>
          obtain rfl := hgiven.unique hgiven'
          exact Option.some.inj (hread.symm.trans hread')

theorem Settles.isSome_parse? {x : v.Value} {raw : String} (h : v.Settles env s x)
    (hgiven : v.IsGiven env raw) : (v.parse? raw).isSome := by
  cases h with
  | kept hnone => exact absurd hgiven (hnone raw)
  | taken hgiven' hread =>
      obtain rfl := hgiven.unique hgiven'
      rw [hread]
      rfl

/-! ## One variable -/

theorem settles_of_apply (h : v.apply env s = .ok s') :
    ∃ x, v.Settles env s x ∧ s' = v.put x s := by
  rw [apply] at h
  split at h
  · next hnone =>
    cases h
    exact ⟨v.get s, .kept (given?_eq_none_iff.1 hnone), (put_get_self v s).symm⟩
  · next raw hraw =>
    split at h
    · next x hread =>
      cases h
      exact ⟨x, .taken (given?_eq_some_iff.1 hraw) hread, rfl⟩
    · cases h

theorem isGiven_of_apply {e : SettingsError} (h : v.apply env s = .error e) :
    ∃ raw, v.IsGiven env raw ∧ v.parse? raw = none ∧ e = .invalid v.key raw := by
  rw [apply] at h
  split at h
  · cases h
  · next raw hraw =>
    split at h
    · cases h
    · next hread =>
      cases h
      exact ⟨raw, given?_eq_some_iff.1 hraw, hread, rfl⟩

/-- What has been taken over is not changed by taking it over again. -/
theorem Settles.apply_eq (h : v.Settles env s (v.get s')) : v.apply env s' = .ok s' := by
  generalize hx : v.get s' = x at h
  cases h with
  | kept hnone => rw [apply, given?_eq_none_iff.2 hnone]
  | taken hgiven hread =>
      rw [apply, given?_eq_some_iff.2 hgiven]
      simp only [hread]
      rw [← hx, put_get_self]

end Variable

namespace Settings

open Variable (Settles)

variable {env : Environment} {s s' t : Settings} {read rest : List Variable}
  {r : Option SettingsError}

/-! ## Variable by variable -/

/-- What settings are once some variables have been read. -/
structure Overridden (env : Environment) (read : List Variable) (s s' : Settings) : Prop where
  settled : ∀ v ∈ read, v.Settles env s (v.get s')
  kept : ∀ v ∉ read, v.get s' = v.get s
  rules_eq : s'.rules = s.rules

theorem Overridden.refl (env : Environment) (s : Settings) : Overridden env [] s s where
  settled := List.forall_mem_nil _
  kept _ _ := rfl
  rules_eq := rfl

/-- Reading one more variable settles it and leaves the others as they were. -/
theorem Overridden.step {v : Variable} {x : v.Value} (h : Overridden env read s s')
    (hv : v ∉ read) (hx : v.Settles env s' x) :
    Overridden env (read ++ [v]) s (v.put x s') where
  settled := by
    intro w hw
    rcases List.mem_append.1 hw with hw | hw
    · have hne : w ≠ v := fun heq => hv (heq ▸ hw)
      rw [Variable.get_put_of_ne hne]
      exact h.settled w hw
    · obtain rfl := List.mem_singleton.1 hw
      rw [Variable.get_put_self]
      cases hx with
      | kept hnone =>
          rw [h.kept w hv]
          exact .kept hnone
      | taken hgiven hread => exact .taken hgiven hread
  kept := by
    intro w hw
    rw [List.mem_append, List.mem_singleton, not_or] at hw
    rw [Variable.get_put_of_ne hw.2, h.kept w hw.1]
  rules_eq := (Variable.rules_put v x s').trans h.rules_eq

/-- Why the reading ends before the variables that are left: there are none, or the first of them
is given a text that stands for no value. -/
inductive EndsBefore (env : Environment) : List Variable → Option SettingsError → Prop
  | nil : EndsBefore env [] none
  | cons {v : Variable} {raw : String} (rest : List Variable) (hgiven : v.IsGiven env raw)
      (hread : v.parse? raw = none) : EndsBefore env (v :: rest) (some (.invalid v.key raw))

theorem Overridden.takeOver (h : Overridden env read s s') (hnodup : (read ++ rest).Nodup)
    (htake : takeOver env rest s' = (t, r)) :
    ∃ before after, rest = before ++ after ∧ Overridden env (read ++ before) s t ∧
      EndsBefore env after r := by
  induction rest generalizing read s' with
  | nil =>
      cases htake
      exact ⟨[], [], rfl, by simpa using h, .nil⟩
  | cons v rest ih =>
      rw [Settings.takeOver] at htake
      split at htake
      · next s'' happly =>
        obtain ⟨x, hx, rfl⟩ := Variable.settles_of_apply happly
        have hv : v ∉ read := fun hmem =>
          List.disjoint_of_nodup_append hnodup hmem List.mem_cons_self
        rw [List.append_cons] at hnodup
        obtain ⟨before, after, rfl, hover, hend⟩ := ih (h.step hv hx) hnodup htake
        exact ⟨v :: before, after, rfl, by rwa [List.append_cons], hend⟩
      · next e happly =>
        cases htake
        obtain ⟨raw, hgiven, hread, rfl⟩ := Variable.isGiven_of_apply happly
        exact ⟨[], v :: rest, rfl, by simpa using h, .cons rest hgiven hread⟩

/-- Settings that an environment settles stay as they are when it is taken over. -/
theorem takeOver_of_settles (h : ∀ v ∈ rest, v.Settles env s (v.get s')) :
    takeOver env rest s' = (s', none) := by
  induction rest with
  | nil => rfl
  | cons v rest ih =>
      rw [takeOver, (h v List.mem_cons_self).apply_eq]
      exact ih fun w hw => h w (List.mem_cons_of_mem v hw)

/-- What an environment reaches, and where it ends. -/
theorem overridden_of_withEnvironment (h : s.withEnvironment env = (t, r)) :
    ∃ before after, Variable.all = before ++ after ∧ Overridden env before s t ∧
      EndsBefore env after r := by
  rw [withEnvironment] at h
  exact (Overridden.refl env s).takeOver Variable.nodup_all h

theorem settles_of_withEnvironment (h : s.withEnvironment env = (t, none)) (v : Variable) :
    v.Settles env s (v.get t) := by
  obtain ⟨before, after, hall, hover, hend⟩ := overridden_of_withEnvironment h
  cases hend
  rw [List.append_nil] at hall
  exact hover.settled v (hall ▸ v.mem_all)

/-- When an environment is taken over to the end, each setting is the value that its own variable
is given, or what it was if none is given; apart from the rules, which stay, that is all there is
to settings. A blank list of users empties the list. Another text of one variable, and other
settings to begin with, make no difference to a setting of another variable that was the same, and
taking over the environment again changes nothing.

Otherwise the variable that is told is the first whose text stands for no value: the settings
before it are taken over, its own and those behind it are as they were. -/
theorem overrides_independent (env : Environment) (s : Settings) :
    (∀ s', s.withEnvironment env = (s', none) →
      (∀ v : Variable, v.Settles env s (v.get s')) ∧
      s'.rules = s.rules ∧
      (∀ t, (∀ v : Variable, v.Settles env s (v.get t)) → t.rules = s.rules → t = s') ∧
      (∀ text, env "EXCLUDED_USER_NAMES" = some text → Text.trim text = "" →
        s'.excludedUsers = []) ∧
      (∀ (w : Variable) (env₂ : Environment) (t t' : Settings),
        (∀ key, key ≠ w.key → env₂ key = env key) → t.withEnvironment env₂ = (t', none) →
          ∀ v, v ≠ w → v.get t = v.get s → v.get t' = v.get s') ∧
      s'.withEnvironment env = (s', none)) ∧
    ∀ s' e, s.withEnvironment env = (s', some e) →
      ∃ v raw before after, Variable.all = before ++ v :: after ∧
        e = .invalid v.key raw ∧ v.IsGiven env raw ∧ v.parse? raw = none ∧
        (∀ w ∈ before, ∀ raw', w.IsGiven env raw' → (w.parse? raw').isSome) ∧
        (∀ w ∈ before, w.Settles env s (w.get s')) ∧
        (∀ w ∈ v :: after, w.get s' = w.get s) ∧
        s'.rules = s.rules := by
  constructor
  · intro s' htake
    have hsettled := settles_of_withEnvironment htake
    obtain ⟨before, after, -, hover, -⟩ := overridden_of_withEnvironment htake
    refine ⟨hsettled, hover.rules_eq, ?_, ?_, ?_, takeOver_of_settles fun v _ => hsettled v⟩
    · intro t ht hrules
      exact Variable.settings_ext (fun v => (ht v).congr (hsettled v) rfl rfl)
        (hrules.trans hover.rules_eq.symm)
    · intro text hset hblank
      have hread : Variable.parse? .excludedUsers text = some [] :=
        congrArg some (Words.items_eq_nil hblank)
      exact (hsettled .excludedUsers).congr (.taken (.whole hset) hread) rfl rfl
    · intro w env₂ t t' henv htake₂ v hne hget
      have hkey : env₂ v.key = env v.key := henv v.key fun h => hne (Variable.key_injective h)
      exact (settles_of_withEnvironment htake₂ v).congr (hsettled v) hkey hget
  · intro s' e htake
    obtain ⟨before, after, hall, hover, hend⟩ := overridden_of_withEnvironment htake
    cases hend with
    | @cons v raw after hgiven hread =>
        have hnodup := Variable.nodup_all
        rw [hall] at hnodup
        refine ⟨v, raw, before, after, hall, rfl, hgiven, hread, ?_, hover.settled, ?_,
          hover.rules_eq⟩
        · exact fun w hw raw' hgiven' => (hover.settled w hw).isSome_parse? hgiven'
        · exact fun w hw => hover.kept w fun hmem =>
            List.disjoint_of_nodup_append hnodup hmem hw

/-- A group and a blank list of users, taken over twice; the same group beside other users; and a
lifetime that cannot be read, behind a topic that can. -/
theorem overrides_independent_users_and_lifetime :
    let users : Settings := { excludedUsers := ["svc-bot"] }
    let blank := Environment.ofList [("KAFKA_GROUP_ID", " events "), ("EXCLUDED_USER_NAMES", " ")]
    let named :=
      Environment.ofList [("KAFKA_GROUP_ID", " events "), ("EXCLUDED_USER_NAMES", "a, b")]
    let late :=
      Environment.ofList [("SNAPSHOT_EXPIRATION", " soon"), ("KAFKA_EVENT_STREAM_TOPIC", "all")]
    (users.withEnvironment blank).1.excludedUsers = [] ∧
      withEnvironment blank { kafka.groupId := "events" } =
        ({ kafka.groupId := "events" }, none) ∧
      (users.withEnvironment named).1.kafka.groupId =
        (users.withEnvironment blank).1.kafka.groupId ∧
      ∃ v : Variable, v.key = "SNAPSHOT_EXPIRATION" ∧ v.IsGiven late "soon" ∧
        v.get (users.withEnvironment late).1 = v.get users := by
  intro users blank named late
  have hblank : users.withEnvironment blank = ({ kafka.groupId := "events" }, none) := rfl
  have hnamed : users.withEnvironment named =
      ({ kafka.groupId := "events", excludedUsers := ["a", "b"] }, none) := rfl
  have hothers : ∀ key, key ≠ "EXCLUDED_USER_NAMES" → named key = blank key := by
    intro key hkey
    have hbeq : (key == "EXCLUDED_USER_NAMES") = false := beq_false_of_ne hkey
    simp only [named, blank, Environment.ofList, List.lookup_cons, hbeq]
  have hlate : users.withEnvironment late =
      ({ users with kafka.topic := "all" }, some (.invalid "SNAPSHOT_EXPIRATION" "soon")) := rfl
  obtain ⟨-, -, -, hempty, hsame, hagain⟩ := (overrides_independent blank users).1 _ hblank
  obtain ⟨v, raw, before, after, -, hinvalid, hgiven, -, -, -, hkept, -⟩ :=
    (overrides_independent late users).2 _ _ hlate
  obtain ⟨hkey, rfl⟩ := SettingsError.invalid.inj hinvalid
  exact ⟨hempty " " rfl rfl, hagain,
    hsame .excludedUsers named _ _ hothers hnamed .groupId (by decide) rfl,
    v, hkey.symm, hgiven, hkept v List.mem_cons_self⟩

end Settings

end ClusterEvents
