/-!
# The configuration to start from

A new configuration file names every setting with its usual value; sections that are off by default
are commented out.
-/

namespace AffinityGate.Config

/-- The lines of a new configuration file. -/
def templateLines : List String :=
  ["# Unit Router Configuration",
   "",
   "# The address to listen on",
   "listen_addr = \"127.0.0.1:8080\"",
   "",
   "# Ordered host pool. Every gateway instance must list the same hosts in the",
   "# same order, otherwise process placement diverges between instances.",
   "hosts = [\"http://localhost:6363\", \"http://localhost:6364\"]",
   "",
   "# compute | messenger",
   "unit = \"compute\"",
   "",
   "# proxy (forward with failover) | redirect (307 to the primary host)",
   "strategy = \"proxy\"",
   "",
   "# Largest request body buffered for forwarding and process id extraction",
   "max_body_bytes = 10485760",
   "",
   "[timeouts]",
   "attempt = \"5s\"",
   "registry = \"2s\"",
   "",
   "# Owner-based override. Requires url, registry_url and owners together.",
   "# [subrouter]",
   "# url = \"http://localhost:6400\"",
   "# registry_url = \"https://arweave.net/graphql\"",
   "# owners = [\"owner-address\"]",
   "# cache_ttl = \"1h\"",
   "",
   "[logging]",
   "level = \"info\"",
   "json = true",
   "include_spans = true",
   "",
   "# [tls]",
   "# cert_path = \"cert.pem\"",
   "# key_path = \"key.pem\""]

/-- The text of a new configuration file. -/
def template : String :=
  String.join (templateLines.map (· ++ "\n"))

end AffinityGate.Config
