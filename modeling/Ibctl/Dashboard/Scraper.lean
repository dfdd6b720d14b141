import Ibctl.Dashboard.IbStatus
import Ibctl.Lib.Runs

/-! The scraper of the IB status page. It keeps the last verdict, and returns it again where the
network or the page fails; the verdict was judged by the clock of its own cycle. -/
namespace Ibctl.Dashboard

section Status

inductive AlertSeverity where
  | info
  | warning
  | critical
  | scheduled
deriving DecidableEq, Repr

structure SystemAlert where
  severity : AlertSeverity
  message : String
deriving DecidableEq, Repr

/-- The lists of the class, which the configuration may extend. -/
structure AlertWording where
  exchangeKeywords : List String
  benignPhrases : List String

def AlertWording.default : AlertWording where
  exchangeKeywords :=
    ["CME","CBOE","CBOT","COMEX","NYMEX","NYSE","NASDAQ","ISE","ICE","EUREX","LSE","TSE","ASX","SGX","HKEX",
      "PAXOS","COINBASE","ARCA","BATS","IEX","MEMX","MIAX","PEARL","AMEX","TSX","VENTURE","IDEAL","IBKRATS"]
  benignPhrases :=
    ["IS AVAILABLE","SYSTEMS ARE AVAILABLE","OPERATING NORMALLY","HAS BEEN RESOLVED","IS NOW AVAILABLE"]

namespace SystemAlert

variable (wording : AlertWording) (alert : SystemAlert)

def upperMessage : List Char := Text.upperChars alert.message.toList

def mentions (part : String) : Bool := Text.containsChars alert.upperMessage part.toList

def isExchangeSpecific : Bool :=
  wording.exchangeKeywords.any (fun exchange =>
      alert.mentions ("TO " ++ exchange ++ " TRADERS") ||
        alert.mentions (exchange ++ " IS CURRENTLY UNAVAILABLE") ||
        alert.mentions (exchange ++ " IS UNAVAILABLE")) ||
    alert.mentions "TECHNICAL PROBLEMS AT THE EXCHANGE" || alert.mentions "AT THE EXCH"

def isBenign : Bool := wording.benignPhrases.any alert.mentions

/-- A system-wide outage: neither of one exchange nor a healthy state. -/
def isBlocking : Bool :=
  if alert.isExchangeSpecific wording then false
  else if alert.isBenign wording then false
  else alert.severity ∈ [.critical,.warning]

end SystemAlert

/-- A reset window as the scraper keeps it. -/
structure ScrapedWindow extends ResetWindow where
  isWeekend : Bool
deriving DecidableEq, Repr

/-- What the parser finds in a page. -/
structure Page where
  alerts : List SystemAlert
  dailyResets : List ScrapedWindow
  weekendResets : List ScrapedWindow

structure ScrapedStatus where
  status : SystemStatus
  page : Page
  lastUpdated : Option Nat
  fetchError : Option String

end Status

section Windows

/-- The time of day by the rules of a zone; none for a zone that is not known. Instants are
microseconds since 1970 in UTC, times of day are microseconds since midnight. -/
abbrev Zones := String → Nat → Option Nat

def DayTime.micros (t : DayTime) : Nat := (t.hour * 60 + t.minute) * 60 * 1000000

/-- Monday is 0. -/
def weekday (instant : Nat) : Nat := (instant / 86400000000 + 3) % 7

variable (zones : Zones)

def ScrapedWindow.holds (window : ScrapedWindow) (now : Nat) : Bool :=
  if window.isWeekend ∧ weekday now < 5 then false
  else
    match zones window.timezone now with
    | none => false
    | some localNow =>
      if window.startTime.micros ≤ window.endTime.micros then
        window.startTime.micros ≤ localNow ∧ localNow ≤ window.endTime.micros
      else window.startTime.micros ≤ localNow ∨ localNow ≤ window.endTime.micros

/-- The first window of the region that the time lies in. -/
def Page.resetWindow (page : Page) (region : String) (now : Nat) : Option ScrapedWindow :=
  (page.dailyResets ++ page.weekendResets).find? fun window =>
    Text.upperChars window.region.toList = Text.upperChars region.toList ∧ window.holds zones now

def Page.hasBlockingAlerts (wording : AlertWording) (page : Page) : Bool :=
  page.alerts.any (·.isBlocking wording)

end Windows

section Fetching

structure ScraperConfig where
  region : String
  maxRetries : Nat
  backendHosts : List String
  fallbackHost : String
  probeRetries : Nat
  promoteAfterConsecutiveFailures : Nat

def ScraperConfig.default : ScraperConfig where
  region := "NA"
  maxRetries := 2
  backendHosts := ["cdc1-hb1.ibllc.com","cdc1-hb2.ibllc.com"]
  fallbackHost := "interactivebrokers.com"
  probeRetries := 2
  promoteAfterConsecutiveFailures := 3

structure IBStatusScraper where
  config : ScraperConfig
  lastStatus : Option ScrapedStatus
  consecutiveInternetFailures : Nat

def IBStatusScraper.new (config : ScraperConfig) : IBStatusScraper := ⟨config,none,0⟩

/-- What a cycle meets: which probe of which host connects, what each request for the page
brings, and the clock when the status is stamped and when it is judged. -/
structure Fetch where
  connects : String → Nat → Bool
  page : Nat → Option Page
  updatedAt : Nat
  judgedAt : Nat

def ScraperConfig.checkInternet (config : ScraperConfig) (connects : String → Nat → Bool) : Bool :=
  (config.backendHosts ++ [config.fallbackHost]).any fun host =>
    (List.range (config.probeRetries + 1)).any (connects host)

/-- The first request that is answered, of as many as are made. -/
def ScraperConfig.fetchPage (config : ScraperConfig) (page : Nat → Option Page) : Option Page :=
  (List.range (config.maxRetries + 1)).findSome? page

variable (wording : AlertWording) (zones : Zones)

def determineStatus (config : ScraperConfig) (page : Page) (now : Nat) : SystemStatus :=
  if page.hasBlockingAlerts wording then .outage
  else if (page.resetWindow zones config.region now).isSome then .maintenance
  else .available

namespace IBStatusScraper

variable (self : IBStatusScraper)

def parseResponse (fetch : Fetch) (page : Page) : IBStatusScraper × ScrapedStatus :=
  let status : ScrapedStatus :=
    ⟨determineStatus wording zones self.config page fetch.judgedAt,page,some fetch.updatedAt,none⟩
  ({ self with lastStatus := some status },status)

/-- A status without a page. -/
def bare (status : SystemStatus) (fetchError : String) : ScrapedStatus :=
  ⟨status,⟨[],[],[]⟩,none,some fetchError⟩

def fetchStatus (fetch : Fetch) : IBStatusScraper × ScrapedStatus :=
  if self.config.checkInternet fetch.connects = false then
    let failures := self.consecutiveInternetFailures + 1
    let counted := { self with consecutiveInternetFailures := failures }
    let threshold := self.config.promoteAfterConsecutiveFailures
    if failures < threshold then
      match self.lastStatus with
      | some last => (counted,last)
      | none =>
        (counted,bare .unknown ("Internet probe failed (" ++ toString failures ++ "/" ++ toString threshold ++
          " consecutive) — deferring promotion; no cached status yet"))
    else
      (counted,bare .noInternet "Internet connectivity check failed — backends and CDN unreachable")
  else
    let recovered := { self with consecutiveInternetFailures := 0 }
    match self.config.fetchPage fetch.page with
    | some page => recovered.parseResponse wording zones fetch page
    | none =>
      match self.lastStatus with
      | some last =>
        let last := { last with fetchError := some "Using cached status (scrape failed)" }
        ({ recovered with lastStatus := some last },last)
      | none => (recovered,bare .unknown "Failed to fetch IB status page after retries")

end IBStatusScraper

end Fetching

section Feed

/-- The monitor and its scraper. -/
structure StatusFeed where
  monitor : IBStatusMonitor
  scraper : IBStatusScraper

/-- A cycle of the monitor, or a hand on the override between two cycles. -/
inductive FeedEvent where
  | cycle (fetch : Fetch) (pushedAt : Nat)
  | setOverride (status : OverrideStatus) (reason : String) (now : Nat)
  | clearOverride (now : Nat)

variable (wording : AlertWording) (zones : Zones)

/-- What `_check_and_push` reads of a status, by the clock of the push. -/
def ScrapedStatus.summary (status : ScrapedStatus) (region : String) (now : Nat) : IBSystemStatus where
  status := status.status
  blocking := (status.page.alerts.filter (·.isBlocking wording)).map SystemAlert.message
  window := (status.page.resetWindow zones region now).map ScrapedWindow.toResetWindow
  fetchError := status.fetchError

namespace StatusFeed

variable (self : StatusFeed)

/-- One `_check_and_push`, with the status and the reason that go out. Under an override the
scraper is not asked. -/
def checkAndPush (fetch : Fetch) (pushedAt : Nat) : StatusFeed × Option (String × String) :=
  if self.monitor.overrideStatus.isSome then
    let (monitor,pushed) := self.monitor.checkAndPush (.error "not asked") pushedAt
    ({ self with monitor },pushed)
  else
    let (scraper,status) := self.scraper.fetchStatus wording zones fetch
    let (monitor,pushed) :=
      self.monitor.checkAndPush (.ok (status.summary wording zones scraper.config.region pushedAt)) pushedAt
    (⟨monitor,scraper⟩,pushed)

def step : FeedEvent → StatusFeed
  | .cycle fetch pushedAt => (self.checkAndPush wording zones fetch pushedAt).1
  | .setOverride status reason now => { self with monitor := self.monitor.setOverride status reason now }
  | .clearOverride now => { self with monitor := self.monitor.clearOverride now }

/-- The time lies in a window of the last parsed page, for the configured region. -/
def InWindow (scraper : IBStatusScraper) (now : Nat) : Prop :=
  ∃ last, scraper.lastStatus = some last ∧
    (last.page.resetWindow zones scraper.config.region now).isSome = true

/-- A maintenance that the scraper has pushed is one of its last page at the time of the push. -/
def Truthful : FeedEvent → Prop
  | .cycle fetch pushedAt =>
    self.monitor.overrideStatus = none →
      ∀ reason, (self.checkAndPush wording zones fetch pushedAt).2 = some ("maintenance",reason) →
        InWindow zones (self.checkAndPush wording zones fetch pushedAt).1.scraper pushedAt
  | _ => True

/-- The cycle returns the kept verdict, if there is one. -/
def FallsBack (scraper : IBStatusScraper) (fetch : Fetch) : Prop :=
  scraper.config.checkInternet fetch.connects = false ∧
      scraper.consecutiveInternetFailures + 1 < scraper.config.promoteAfterConsecutiveFailures ∨
    scraper.config.checkInternet fetch.connects = true ∧ scraper.config.fetchPage fetch.page = none

/-- A kept maintenance that is returned again meets a clock that its windows still hold, and one
that is read from a page is pushed before its window ends. -/
def Timely : FeedEvent → Prop
  | .cycle fetch pushedAt =>
    self.monitor.overrideStatus = none →
      (FallsBack self.scraper fetch → ∀ last, self.scraper.lastStatus = some last →
        last.status = .maintenance →
          (last.page.resetWindow zones self.scraper.config.region pushedAt).isSome = true) ∧
      (self.scraper.config.checkInternet fetch.connects = true →
        ∀ page, self.scraper.config.fetchPage fetch.page = some page →
          page.hasBlockingAlerts wording = false →
            (page.resetWindow zones self.scraper.config.region fetch.judgedAt).isSome = true →
              (page.resetWindow zones self.scraper.config.region pushedAt).isSome = true)
  | _ => True

end StatusFeed

end Feed

section Runs

variable {wording : AlertWording} {zones : Zones}

namespace StatusFeed

theorem pushed_scraped {f : StatusFeed} (scraping : f.monitor.overrideStatus = none) (fetch : Fetch)
    (pushedAt : Nat) :
    (f.checkAndPush wording zones fetch pushedAt).1.scraper = (f.scraper.fetchStatus wording zones fetch).1 ∧
      ∃ reason, (f.checkAndPush wording zones fetch pushedAt).2 =
        some ((f.scraper.fetchStatus wording zones fetch).2.status.value,reason) := by
  unfold checkAndPush
  rw [scraping]
  simp only [Option.isSome_none,Bool.false_eq_true,if_false,IBStatusMonitor.checkAndPush,scraping]
  exact ⟨trivial,_,rfl⟩

theorem value_maintenance {status : SystemStatus} (same : status.value = "maintenance") : status = .maintenance := by
  cases status <;> first | rfl | exact absurd same (by decide)

section Fetched

variable {s : IBStatusScraper} {fetch : Fetch}

/-- A fall back returns the kept verdict and keeps it. -/
theorem fetchStatus_fallsBack {last : ScrapedStatus} (falls : FallsBack s fetch) (kept : s.lastStatus = some last) :
    (s.fetchStatus wording zones fetch).2.status = last.status ∧
      (s.fetchStatus wording zones fetch).1.config = s.config ∧
      ∃ same, (s.fetchStatus wording zones fetch).1.lastStatus = some same ∧ same.page = last.page := by
  unfold IBStatusScraper.fetchStatus
  rcases falls with ⟨lost,few⟩ | ⟨probed,missing⟩
  · rw [if_pos lost]
    dsimp only
    rw [if_pos few,kept]
    exact ⟨rfl,rfl,last,rfl,rfl⟩
  · rw [if_neg (by rw [probed]; decide)]
    dsimp only
    rw [missing,kept]
    exact ⟨rfl,rfl,_,rfl,rfl⟩

/-- Without a kept verdict, and when the failures are promoted, no maintenance is returned. -/
theorem fetchStatus_bare (nothing : FallsBack s fetch ∧ s.lastStatus = none ∨
      s.config.checkInternet fetch.connects = false ∧ ¬ FallsBack s fetch) :
    (s.fetchStatus wording zones fetch).2.status ≠ .maintenance := by
  unfold IBStatusScraper.fetchStatus
  rcases nothing with ⟨⟨lost,few⟩ | ⟨probed,missing⟩,kept⟩ | ⟨lost,many⟩
  · rw [if_pos lost]
    dsimp only
    rw [if_pos few,kept]
    exact nofun
  · rw [if_neg (by rw [probed]; decide)]
    dsimp only
    rw [missing,kept]
    exact nofun
  · rw [if_pos lost]
    dsimp only
    rw [if_neg fun few => many (.inl ⟨lost,few⟩)]
    exact nofun

/-- A page is judged, and kept with its verdict. -/
theorem fetchStatus_page {page : Page} (probed : s.config.checkInternet fetch.connects = true)
    (found : s.config.fetchPage fetch.page = some page) :
    (s.fetchStatus wording zones fetch).2.status = determineStatus wording zones s.config page fetch.judgedAt ∧
      (s.fetchStatus wording zones fetch).1.config = s.config ∧
      ∃ kept, (s.fetchStatus wording zones fetch).1.lastStatus = some kept ∧ kept.page = page := by
  unfold IBStatusScraper.fetchStatus
  rw [if_neg (by rw [probed]; decide)]
  dsimp only
  rw [found]
  exact ⟨rfl,rfl,_,rfl,rfl⟩

theorem determineStatus_maintenance {config : ScraperConfig} {page : Page} {now : Nat} :
    determineStatus wording zones config page now = .maintenance ↔
      page.hasBlockingAlerts wording = false ∧ (page.resetWindow zones config.region now).isSome = true := by
  unfold determineStatus
  split_ifs with blocked within
  · exact iff_of_false nofun fun both => Bool.noConfusion (both.1.symm.trans blocked)
  · exact iff_of_true rfl ⟨Bool.not_eq_true _ ▸ blocked,within⟩
  · exact iff_of_false nofun fun both => within both.2

theorem inWindow_iff {scraper : IBStatusScraper} {last : ScrapedStatus} (kept : scraper.lastStatus = some last)
    (now : Nat) : InWindow zones scraper now ↔
      (last.page.resetWindow zones scraper.config.region now).isSome = true := by
  unfold InWindow
  rw [kept]
  exact ⟨fun ⟨_,same,within⟩ => Option.some.inj same ▸ within,fun within => ⟨last,rfl,within⟩⟩

end Fetched

/-- What a cycle pushes is true at its time exactly when the cycle is timely. -/
theorem truthful_iff (f : StatusFeed) (event : FeedEvent) :
    f.Truthful wording zones event ↔ f.Timely wording zones event := by
  cases event with
  | cycle fetch pushedAt =>
    refine imp_congr_right fun scraping => ?_
    obtain ⟨scraper,reason,pushed⟩ := @pushed_scraped wording zones f scraping fetch pushedAt
    have status : (∀ reason, (f.checkAndPush wording zones fetch pushedAt).2 = some ("maintenance",reason) →
        InWindow zones (f.checkAndPush wording zones fetch pushedAt).1.scraper pushedAt) ↔
          ((f.scraper.fetchStatus wording zones fetch).2.status = .maintenance →
            InWindow zones (f.scraper.fetchStatus wording zones fetch).1 pushedAt) := by
      rw [pushed,scraper]
      constructor
      · intro told maintenance
        exact told reason (by rw [maintenance]; rfl)
      · intro told _ same
        exact told (value_maintenance (Prod.mk.inj (Option.some.inj same)).1)
    rw [status]
    by_cases falls : FallsBack f.scraper fetch
    · have unread : f.scraper.config.checkInternet fetch.connects = true →
          f.scraper.config.fetchPage fetch.page = none := fun probed => by
        rcases falls with ⟨lost,-⟩ | ⟨-,missing⟩
        · rw [probed] at lost
          cases lost
        · exact missing
      have fresh : f.scraper.config.checkInternet fetch.connects = true →
          ∀ page, f.scraper.config.fetchPage fetch.page = some page → False := fun probed page found => by
        rw [unread probed] at found
        cases found
      rw [and_iff_left fun probed page found => (fresh probed page found).elim]
      cases kept : f.scraper.lastStatus with
      | none =>
        have other := @fetchStatus_bare wording zones f.scraper fetch (.inl ⟨falls,kept⟩)
        exact iff_of_true (fun same => absurd same other) nofun
      | some last =>
        obtain ⟨verdict,config,same,stays,page⟩ := @fetchStatus_fallsBack wording zones f.scraper fetch last falls kept
        rw [inWindow_iff stays,verdict,page,config]
        constructor
        · intro told _ other again maintenance
          cases again
          exact told maintenance
        · intro timely maintenance
          exact timely falls last rfl maintenance
    · rw [and_iff_right fun again => absurd again falls]
      cases probed : f.scraper.config.checkInternet fetch.connects with
      | false =>
        have other := @fetchStatus_bare wording zones f.scraper fetch (.inr ⟨probed,falls⟩)
        exact iff_of_true (fun same => absurd same other) nofun
      | true =>
        cases found : f.scraper.config.fetchPage fetch.page with
        | none => exact absurd (.inr ⟨probed,found⟩) falls
        | some page =>
          obtain ⟨verdict,config,kept,stays,same⟩ := @fetchStatus_page wording zones f.scraper fetch page probed found
          rw [inWindow_iff stays,verdict,same,config,determineStatus_maintenance]
          constructor
          · intro told _ other again clear within
            cases again
            exact told ⟨clear,within⟩
          · rintro timely ⟨clear,within⟩
            exact timely rfl page rfl clear within
  | setOverride status reason now => exact Iff.rfl
  | clearOverride now => exact Iff.rfl

/-- In every run the pushed maintenances are true exactly when every cycle is timely. -/
theorem pushes_truthful_iff (start : StatusFeed) (events : List FeedEvent) :
    Runs.Along (fun f event => f.step wording zones event) (fun f event => f.Truthful wording zones event) start events ↔
      Runs.Along (fun f event => f.step wording zones event) (fun f event => f.Timely wording zones event) start events :=
  Runs.along_congr truthful_iff start events

/-- A reset from midnight to one o'clock. -/
def nightPage : Page where
  alerts := []
  dailyResets := [⟨⟨"NA",⟨0,0⟩,⟨1,0⟩,"UTC"⟩,false⟩]
  weekendResets := []

/-- A cycle with the internet there, so many minutes after midnight. -/
def nightCycle (page : Option Page) (minutes : Nat) : FeedEvent :=
  .cycle ⟨fun _ _ => true,fun _ => page,minutes * 60000000,minutes * 60000000⟩ (minutes * 60000000)

/-- The page is read at half past midnight and then no more; at two the maintenance goes out again. -/
theorem kept_maintenance_pushed :
    ¬ Runs.Along (fun (f : StatusFeed) event => f.step .default (fun _ now => some (now % 86400000000)) event)
      (fun (f : StatusFeed) event => f.Truthful .default (fun _ now => some (now % 86400000000)) event)
      ⟨⟨none,"","available",[]⟩,.new .default⟩ [nightCycle (some nightPage) 30,nightCycle none 120] := by
  rintro ⟨-,told,-⟩
  have again := told rfl "Scheduled maintenance" (by decide +kernel)
  obtain ⟨last,kept,within⟩ := again
  cases kept
  exact absurd within (by decide +kernel)

end StatusFeed

end Runs

end Ibctl.Dashboard
