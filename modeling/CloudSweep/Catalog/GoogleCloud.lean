/-
The catalog of Google Cloud resources. The order matters: within a service, a kind comes before the
kinds that its instances hold on to, so that instances go before disks and subnetworks before
networks.
-/
import CloudSweep.Catalog.Basic

namespace CloudSweep.Catalog

/-- A kind of the Compute Engine service. -/
def compute (name : String) : ResourceKind := .of "compute" name

/-- Names of file stores look like `projects/<p>/locations/<zone>/instances/<name>`. -/
def fileStores : ResourceKind :=
  { ((ResourceKind.of "filestore" "instances").withScope .zone).withoutZoneFilter.singleDelete with
    scopeSegment := some 3, forceDelete := true }

/-- Sinks carry no creation time, and two of them are built in. -/
def sinks : ResourceKind :=
  { (ResourceKind.of "logging" "sinks").singleDelete with
    clearAllOnly := true, preserved := ["_Default", "_Required"] }

/-- Topics, four of which the service keeps for itself. -/
def topics : ResourceKind :=
  { ResourceKind.of "pubsub" "topics" with
    preserved := ["container-analysis-notes-v1", "container-analysis-notes-v1beta1",
      "container-analysis-occurrences-v1", "container-analysis-occurrences-v1beta1"] }

/-- Memberships of a hub, which is served at several addresses. -/
def memberships : ResourceKind :=
  { (ResourceKind.of "container" "hub").singleDelete with subgroup := some "memberships" }

/-- A service that serves hub memberships at the address made of its own name. -/
def hub (api : String) : Service where
  api := api
  endpoint := some { service := "gkehub", url := "https://" ++ api ++ "/" }
  kinds := [memberships]

/-- The kinds of the Compute Engine service. -/
def computeKinds : List ResourceKind := [
  (compute "instances").withScope .zone,
  (compute "addresses").withScope .global,
  (compute "addresses").withScope .region,
  (compute "disks").withScope .zone,
  (compute "disks").withScope .region,
  compute "firewall-rules",
  (compute "forwarding-rules").withScope .global,
  (compute "forwarding-rules").withScope .region,
  (compute "target-http-proxies").withScope .global,
  (compute "target-http-proxies").withScope .region,
  (compute "target-https-proxies").withScope .global,
  (compute "target-https-proxies").withScope .region,
  compute "target-tcp-proxies",
  (compute "ssl-policies").withScope .global,
  (compute "ssl-policies").withScope .region,
  (compute "ssl-certificates").withScope .global,
  (compute "ssl-certificates").withScope .region,
  (compute "url-maps").withScope .global,
  (compute "url-maps").withScope .region,
  (compute "backend-services").withScope .global,
  (compute "backend-services").withScope .region,
  (compute "target-pools").withScope .region,
  (compute "security-policies").withScope .global,
  (compute "security-policies").withScope .region,
  (compute "health-checks").withScope .global,
  (compute "health-checks").withScope .region,
  compute "http-health-checks",
  { (compute "instance-groups").withScope .region with managed := .managed },
  { (compute "instance-groups").withScope .zone with managed := .managed },
  { (compute "instance-groups").withScope .zone with managed := .unmanaged },
  (compute "instance-templates").withScope .global,
  (compute "instance-templates").withScope .region,
  { ((compute "sole-tenancy").withScope .zone).withoutZoneFilter with subgroup := some "node-groups" },
  { (compute "sole-tenancy").withScope .region with subgroup := some "node-templates" },
  ((compute "network-endpoint-groups").withScope .zone).withoutZoneFilter.singleDelete,
  compute "routes",
  (compute "routers").withScope .region,
  { (compute "networks").withScope .region with subgroup := some "subnets", tolerated := true },
  compute "networks"]

/-- The services of Google Cloud that are swept, in order. -/
def googleCloud : Catalog where
  services := [
    { api := "file.googleapis.com", kinds := [fileStores] },
    { api := "secretmanager.googleapis.com"
      kinds := [(ResourceKind.of "secretmanager" "secrets").withScope .zone] },
    { api := "compute.googleapis.com", kinds := computeKinds },
    { api := "logging.googleapis.com", kinds := [sinks] },
    { api := "pubsub.googleapis.com"
      kinds := [ResourceKind.of "pubsub" "subscriptions", topics] },
    hub "gkehub.googleapis.com",
    hub "staging-gkehub.sandbox.googleapis.com",
    hub "autopush-gkehub.sandbox.googleapis.com"]

end CloudSweep.Catalog
