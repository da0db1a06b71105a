import Mathlib.Tactic.ByContra
import AffinityGate.Proofs.Dispatch.Kept
import AffinityGate.Proofs.Process.DataItem

/-!
# A spawn and the traffic of its process

A spawn announces the owner of its process; what names the process later follows the spawn
(`later_traffic_follows_spawn`).  Nothing checks that a spawn was signed by its owner: a request
whose body begins like a spawn rehomes a process that is known already (`forged_spawn_rehomes`),
and no other request does (`known_owner_stays_unless_spawned`).
-/

namespace AffinityGate

/-- Two different byte strings with one digest. -/
def Digest.Collision (a b : Bytes) : Prop :=
  a ≠ b ∧ Digest.sha256 a = Digest.sha256 b

variable {σ : Type}

namespace Dispatcher

open DataItem (processOf)

/-! ## Spawns and the requests that name their process -/

/-- A request that a gateway of messenger units takes for the spawn of an item. -/
def Spawns (d : Dispatcher) (request : Http.Arrival) (item : DataItem) : Prop :=
  ∃ body, request.body.buffer d.maxBodyBytes = .ok body ∧ Extracted.Spawn request.uri body item

/-- A request whose body can be read and that names, to a gateway of messenger units, the process of
a signature. -/
def Names (d : Dispatcher) (request : Http.Arrival) (signature : Bytes) : Prop :=
  ∃ body, request.body.buffer d.maxBodyBytes = .ok body ∧
    Extracted.Names signature request.uri body

/-- A spawn of an item is among the requests of a course. -/
def SpawnedIn (d : Dispatcher) (history : List Happening) (item : DataItem) : Prop :=
  ∃ span request, Happening.event (.request span request) ∈ history ∧ d.Spawns request item

variable {d : Dispatcher} {request : Http.Arrival} {item : DataItem}

theorem Names.extracted? {signature : Bytes} (hunit : d.unit = .messenger)
    (h : d.Names request signature) :
    d.extracted? request = some ⟨processOf signature, none⟩ := by
  obtain ⟨body, hbody, hnames⟩ := h
  refine extracted?_eq_some_iff.mpr ⟨body, hbody, ?_⟩
  rw [hunit]
  exact hnames.ofRequest?

/-- Only a spawn brings an owner along. -/
theorem extracted?_eq_spawn_iff (hunit : d.unit = .messenger) {id : ProcessId} {owner : String} :
    d.extracted? request = some ⟨id, some owner⟩ ↔
      ∃ item, d.Spawns request item ∧
        id = processOf item.signature ∧ owner = item.ownerAddress := by
  rw [extracted?_eq_some_iff, hunit]
  constructor
  · rintro ⟨body, hbody, htold⟩
    obtain ⟨item, hspawn, hid, howner⟩ := Extracted.ofRequest?_eq_spawn_iff.mp htold
    exact ⟨item, ⟨body, hbody, hspawn⟩, hid, howner⟩
  · rintro ⟨item, ⟨body, hbody, hspawn⟩, rfl, rfl⟩
    exact ⟨body, hbody, hspawn.ofRequest?⟩

/-- The owners that are announced in a course are those of its spawns. -/
theorem spawnedIn_of_announced (hunit : d.unit = .messenger) {history : List Happening}
    {h : Happening} (hmem : h ∈ history) {id : ProcessId} {owner : String}
    (hannounced : d.announced? h = some (id, owner)) :
    ∃ item, d.SpawnedIn history item ∧ id = processOf item.signature ∧
      owner = item.ownerAddress := by
  cases h with
  | sweep => cases hannounced
  | event event =>
    cases event with
    | pause millis => cases hannounced
    | request span request =>
      obtain ⟨⟨q, owner?⟩, htold, hmap⟩ := Option.bind_eq_some_iff.mp hannounced
      obtain ⟨o, howner, heq⟩ := Option.map_eq_some_iff.mp hmap
      cases heq
      subst howner
      obtain ⟨item, hspawns, hid, howner⟩ := (extracted?_eq_spawn_iff hunit).mp htold
      exact ⟨item, ⟨span, request, hmem, hspawns⟩, hid, howner⟩

/-! ## A gateway of two hosts -/

/-- A subrouter for the processes of one owner. -/
def vipPolicy : OwnerPolicy :=
  ⟨⟨none, "http://vip.example", false⟩, ⟨"http://registry.example", false⟩, ["vip"]⟩

/-- Two hosts behind a gateway that redirects, and this subrouter. -/
def ofTwo : Dispatcher :=
  ⟨⟨[⟨"http://one", false⟩, ⟨"http://two", false⟩], by decide, by decide⟩, .redirect, .messenger,
    ⟨some vipPolicy, .ofMillis 2000⟩, .ofMillis 5000, Config.defaultMaxBodyBytes⟩

/-- A registry that takes seven milliseconds to say that a process belongs to that owner. -/
def vipRegistry : Outside Unit :=
  ⟨fun _ w => (.never, w), fun _ w => (.after 7 (.ok (some "vip")), w), fun _ => true⟩

/-- A signature of one byte, over and over. -/
def signatureOf (n : UInt8) : Bytes := List.replicate 64 n

/-- A spawn with such a signature, and a public key of the same kind. -/
def spawnOf (signature owner : UInt8) : DataItem :=
  ⟨2, signatureOf signature, List.replicate 32 owner, none⟩

/-- A request that carries a spawn. -/
def spawning (signature owner : UInt8) : Http.Arrival :=
  ⟨.post, ⟨none, [], Utf8.ofText "/"⟩, [], .ofBytes (spawnOf signature owner).write⟩

/-- A request that has the process of a signature in its path. -/
def monitoring (signature : UInt8) : Http.Arrival :=
  ⟨.get, ⟨none, [], Utf8.ofText "/monitor/" ++
    Utf8.ofText (DataItem.digestText (signatureOf signature))⟩, [], .ofBytes []⟩

theorem read?_spawnOf (signature owner : UInt8) :
    DataItem.read? (spawnOf signature owner).write = some (spawnOf signature owner) := by
  have hfits : (spawnOf signature owner).Fits :=
    ⟨by simp [spawnOf, signatureOf, DataItem.keyLengths?], nofun⟩
  simpa using DataItem.read?_write_append hfits []

theorem buffer_spawning (signature owner : UInt8) :
    (spawning signature owner).body.buffer ofTwo.maxBodyBytes =
      .ok (spawnOf signature owner).write := by
  have hlength : (spawnOf signature owner).write.length = 99 := by
    simp [spawnOf, signatureOf, DataItem.write, DataItem.writeTarget]
  simp [spawning, Http.BodyStream.ofBytes, Http.BodyStream.buffer, Http.BodyStream.fits, hlength,
    ofTwo, Config.defaultMaxBodyBytes]

theorem spawns_spawning (signature owner : UInt8) {item : DataItem} :
    ofTwo.Spawns (spawning signature owner) item ↔ item = spawnOf signature owner := by
  have hroot : (⟨none, [], Utf8.ofText "/"⟩ : Http.Uri).query? = none ∧
      Extracted.ofPath? UnitKind.messenger.pathHeads
        (⟨none, [], Utf8.ofText "/"⟩ : Http.Uri).path = none := by decide +kernel
  constructor
  · rintro ⟨body, hbody, hspawn⟩
    rw [buffer_spawning] at hbody
    cases hbody
    have hread := hspawn.read
    rw [read?_spawnOf] at hread
    exact (Option.some.inj hread).symm
  · rintro rfl
    refine ⟨_, buffer_spawning signature owner, ?_, hroot.2, read?_spawnOf signature owner, rfl⟩
    rw [spawning, hroot.1, Option.bind_none]

theorem names_monitoring (signature : UInt8) :
    ofTwo.Names (monitoring signature) (signatureOf signature) := by
  let target := Utf8.ofText "/monitor/" ++
    Utf8.ofText (DataItem.digestText (signatureOf signature))
  have hne : target ≠ [] := List.append_ne_nil_of_left_ne_nil (by decide +kernel) _
  have hplain : ∀ b ∈ target, (b != 0x3F) = true := by
    intro b hb
    rcases List.mem_append.mp hb with hb | hb
    · exact (by decide +kernel : ∀ b ∈ Utf8.ofText "/monitor/", (b != 0x3F) = true) b hb
    · rw [DataItem.ofText_digestText] at hb
      have := Base64.isInert_of_mem hb
      simp_all [Base64.isInert]
  obtain ⟨hpath, hquery⟩ := Http.Uri.path_of_no_query hne hplain
  refine ⟨[], rfl, .of_path ?_ hpath⟩
  rw [monitoring, hquery, Option.bind_none]

/-! ## What follows a spawn -/

/-- **Later traffic follows its spawn.**  A gateway of messenger units with an override dispatches a
spawn, whatever its cache holds, and then anything happens, among it no other spawn with the same
signature (and none whose signature, though different, has the same digest).  A request that names
the process of the spawn, in any of the three ways, goes where the spawn went if it comes before the
time to live is over: it is taken for the same process, the decision is the one for the owner in the
spawn, the candidates are the same, and the registry is asked neither time. -/
theorem later_traffic_follows_spawn (d : Dispatcher) (out : Outside σ) {p : OwnerPolicy}
    {c : OwnerCache} {s : Situation σ} (hunit : d.unit = .messenger)
    (hp : d.resolver.policy = some p) (hs : s.store = .timed c) (span span' : Option String)
    {spawn later : Http.Arrival} {item : DataItem} (hspawn : d.Spawns spawn item)
    (between : List Happening)
    (halone : ∀ other, d.SpawnedIn between other → other.signature = item.signature → other = item)
    (hapart : ∀ other, d.SpawnedIn between other →
      ¬Digest.Collision other.signature item.signature)
    (hlater : d.Names later item.signature) :
    let s' := d.course out (d.dispatch out span spawn s).after between
    let decision := Resolver.decide p item.ownerAddress
    (Duration.ofMillis s'.now).nanos < (Duration.ofMillis s.now).nanos + c.ttl.nanos →
      d.Goes out span spawn s (processOf item.signature) decision [] ∧
      d.Goes out span' later s' (processOf item.signature) decision [] := by
  intro s' decision hage
  have htold := (extracted?_eq_spawn_iff hunit).mpr ⟨item, hspawn, rfl, rfl⟩
  obtain ⟨hgoes, hheld⟩ := goes_of_announced out span hp hs htold
  refine ⟨hgoes, ?_⟩
  have hheld' : s'.Holds c.ttl ⟨processOf item.signature, item.ownerAddress, s.now⟩ := by
    refine course_holds out hp hheld between fun h hmem owner hannounced => ?_
    obtain ⟨other, hother, hid, rfl⟩ := spawnedIn_of_announced hunit hmem hannounced
    have hsignature : other.signature = item.signature := by
      by_contra hne
      exact hapart other hother ⟨hne, DataItem.sha256_eq_of_processOf hid.symm⟩
    rw [halone other hother hsignature]
  have hpast : s.now ≤ s'.now := by
    obtain ⟨c', -, -, hc'⟩ := hheld'
    exact hc'.past
  have hfresh : (Duration.ofMillis (s'.now - s.now)).nanos < c.ttl.nanos := by
    have hle := Nat.mul_le_mul_right Duration.nanosPerMilli hpast
    simp only [Duration.ofMillis] at hage ⊢
    rw [Nat.sub_mul]
    omega
  exact goes_of_holds out span' hp hheld' hfresh (hlater.extracted? hunit)

/-- The spawn of a process, and a request with the process in its path.  In between another process
is spawned, the spawn is sent again, the cache is swept, and time passes. -/
theorem monitored_after_spawn :
    let s : Situation Unit := ⟨5, .timed (.empty (.ofMillis 10)), ()⟩
    let between : List Happening := [.event (.request none (spawning 6 1)), .event (.pause 3),
      .event (.request none (spawning 5 1)), .sweep, .event (.pause 6)]
    let s' := ofTwo.course vipRegistry (ofTwo.dispatch vipRegistry none (spawning 5 1) s).after
      between
    let decision := Resolver.decide vipPolicy (spawnOf 5 1).ownerAddress
    ofTwo.Goes vipRegistry none (spawning 5 1) s (processOf (signatureOf 5)) decision [] ∧
      ofTwo.Goes vipRegistry none (monitoring 5) s' (processOf (signatureOf 5)) decision [] := by
  intro s between s' decision
  have hspawned : ∀ other, ofTwo.SpawnedIn between other →
      other = spawnOf 6 1 ∨ other = spawnOf 5 1 := by
    rintro other ⟨span, request, hmem, hspawns⟩
    simp only [between, List.mem_cons, List.not_mem_nil, or_false, Happening.event.injEq,
      Event.request.injEq, reduceCtorEq, false_or] at hmem
    rcases hmem with ⟨-, rfl⟩ | ⟨-, rfl⟩
    · exact Or.inl (spawns_spawning 6 1 |>.mp hspawns)
    · exact Or.inr (spawns_spawning 5 1 |>.mp hspawns)
  refine later_traffic_follows_spawn ofTwo vipRegistry rfl rfl rfl none none
    ((spawns_spawning 5 1).mpr rfl) between (fun other hother hsame => ?_) (fun other hother => ?_)
    (names_monitoring 5) (by decide +kernel)
  · rcases hspawned other hother with rfl | rfl
    · exact absurd hsame (by decide)
    · rfl
  · rintro ⟨hne, hdigest⟩
    rcases hspawned other hother with rfl | rfl
    · exact absurd hdigest (by decide +kernel)
    · exact hne rfl

/-! ## Known owners -/

/-- **A forged spawn rehomes a process.**  The registry says whose a process is, and the gateway
keeps that for a second; a request with the same signature and another public key, which nobody has
checked, replaces the owner at once, and the process leaves the subrouter for the pool. -/
theorem forged_spawn_rehomes :
    let ttl := Duration.ofMillis 1000
    let p := processOf (signatureOf 5)
    let asked := ofTwo.dispatch vipRegistry none (monitoring 5) ⟨0, .timed (.empty ttl), ()⟩
    let s₁ := asked.after
    let s₂ := (ofTwo.dispatch vipRegistry none (spawning 5 9) s₁).after
    ofTwo.Reachable vipRegistry ttl s₁ ∧ Effect.lookups asked.effects = [p] ∧
      s₁.store.find? p = some ⟨p, "vip", 7⟩ ∧
      (Duration.ofMillis (s₂.now - 7)).nanos < ttl.nanos ∧
      (s₂.store.get s₂.now p).1 = some (spawnOf 5 9).ownerAddress ∧
      (spawnOf 5 9).ownerAddress ≠ "vip" ∧
      (ofTwo.decision vipRegistry s₁ ⟨p, none⟩).decision.route = .subrouter ∧
      (ofTwo.decision vipRegistry s₂ ⟨p, none⟩).decision.route = .pool := by
  intro ttl p asked s₁ s₂
  exact ⟨.next (.event (.request none (monitoring 5))) (.start 0 ()), by decide +kernel⟩

/-- **A known owner stays unless a spawn replaces it.**  In a situation that a gateway of messenger
units with an override can get into, the cache has an owner for a process.  Whatever request comes,
and whatever else follows, if it is not a spawn with another owner whose signature has the process
as its digest, the owner is yielded for as long as the entry is fresh, and requests for the process
go where this owner decides, without a question to the registry.  A spawn with such a signature puts
its own signer in the owner's place. -/
theorem known_owner_stays_unless_spawned {d : Dispatcher} {out : Outside σ} {p : OwnerPolicy}
    {ttl : Duration} {s : Situation σ} {e : CacheEntry} (hunit : d.unit = .messenger)
    (hp : d.resolver.policy = some p) (hs : d.Reachable out ttl s)
    (he : s.store.find? e.id = some e) :
    (∀ history : List Happening,
      (∀ item, d.SpawnedIn history item → processOf item.signature = e.id →
        item.ownerAddress = e.owner) →
      let s' := d.course out s history
      (Duration.ofMillis (s'.now - e.written)).nanos < ttl.nanos →
        (s'.store.get s'.now e.id).1 = some e.owner ∧
        ∀ span later, d.extracted? later = some ⟨e.id, none⟩ →
          d.Goes out span later s' e.id (Resolver.decide p e.owner) []) ∧
    ∀ span request item, d.Spawns request item → processOf item.signature = e.id →
      let s' := (d.dispatch out span request s).after
      (Duration.ofMillis (s'.now - s.now)).nanos < ttl.nanos →
        (s'.store.get s'.now e.id).1 = some item.ownerAddress := by
  constructor
  · intro history hsame s' hfresh
    have hheld : s'.Holds ttl e := by
      refine course_holds out hp (hs.holds hp he) history fun h hmem owner hannounced => ?_
      obtain ⟨item, hitem, hid, rfl⟩ := spawnedIn_of_announced hunit hmem hannounced
      exact hsame item hitem hid.symm
    refine ⟨hheld.get_eq hfresh, fun span later htold => ?_⟩
    exact goes_of_holds out span hp hheld hfresh htold
  · intro span request item hspawn hid s' hfresh
    obtain ⟨c, hstore, rfl, -⟩ := hs.exists_cache hp
    have htold := (extracted?_eq_spawn_iff hunit).mpr ⟨item, hspawn, rfl, rfl⟩
    obtain ⟨-, hheld⟩ := goes_of_announced out span hp hstore htold
    rw [hid] at hheld
    exact hheld.get_eq hfresh

/-- The owner from the registry outlives the spawn of another process, a sweep and some time, and
gives way to the signer of a forged spawn. -/
theorem vip_until_forged :
    let p := processOf (signatureOf 5)
    let s := ofTwo.course vipRegistry ⟨0, .timed (.empty (.ofMillis 1000)), ()⟩
      [.event (.request none (monitoring 5))]
    let s' := ofTwo.course vipRegistry s
      [.event (.request none (spawning 6 1)), .sweep, .event (.pause 40)]
    let forged := (ofTwo.dispatch vipRegistry none (spawning 5 9) s).after
    (s'.store.get s'.now p).1 = some "vip" ∧
      ofTwo.Goes vipRegistry none (monitoring 5) s' p (.subrouter vipPolicy.subrouter) [] ∧
      (forged.store.get forged.now p).1 = some (spawnOf 5 9).ownerAddress := by
  intro p s s' forged
  have hreach : ofTwo.Reachable vipRegistry (.ofMillis 1000) s :=
    (Reachable.start 0 ()).course [.event (.request none (monitoring 5))]
  obtain ⟨hstays, hreplaced⟩ := known_owner_stays_unless_spawned (e := ⟨p, "vip", 7⟩) rfl rfl hreach
    (by decide +kernel)
  have hother : ∀ item, ofTwo.SpawnedIn
      [.event (.request none (spawning 6 1)), .sweep, .event (.pause 40)] item →
      processOf item.signature ≠ p := by
    rintro item ⟨span, request, hmem, hspawns⟩
    simp only [List.mem_cons, List.not_mem_nil, or_false, Happening.event.injEq,
      Event.request.injEq, reduceCtorEq] at hmem
    obtain ⟨-, rfl⟩ := hmem
    rw [(spawns_spawning 6 1).mp hspawns]
    decide +kernel
  obtain ⟨hyielded, hgoes⟩ := hstays
    [.event (.request none (spawning 6 1)), .sweep, .event (.pause 40)]
    (fun item hitem hid => absurd hid (hother item hitem)) (by decide +kernel)
  exact ⟨hyielded, hgoes none (monitoring 5) ((names_monitoring 5).extracted? rfl),
    hreplaced none (spawning 5 9) _ ((spawns_spawning 5 9).mpr rfl) rfl (by decide +kernel)⟩

end Dispatcher
end AffinityGate
