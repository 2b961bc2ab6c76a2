/-
This file holds the scripts that a server runs as one step each. The first key of a script is
the owner key of a lock and the second its data key; the first argument, where there is one,
is the ID of the client that claims the lock.
-/

namespace Leasehold

/-- The scripts. -/
inductive Script where
  /-- Removes both keys if the owner key holds the ID. -/
  | release
  /-- Gives the owner key a new lease and the data key a new payload if the owner key holds
  the ID. -/
  | refresh
  /-- Reads both keys. -/
  | inspect
  deriving DecidableEq

/-- The lines of a script. -/
def Script.lines : Script → List String
  | release =>
    ["    if redis.call('get', KEYS[1]) == ARGV[1] then",
      "        redis.call('del', KEYS[1])",
      "        redis.call('del', KEYS[2])",
      "        return 1",
      "    end",
      "    return 0"]
  | refresh =>
    ["    if redis.call('get', KEYS[1]) == ARGV[1] then",
      "        redis.call('set', KEYS[1], ARGV[1], 'PX', ARGV[2])",
      "        redis.call('set', KEYS[2], ARGV[3])",
      "        return 1",
      "    end",
      "    return 0"]
  | inspect =>
    ["    local owner = redis.call('get', KEYS[1])",
      "    local pttl = redis.call('pttl', KEYS[1])",
      "    local data = redis.call('get', KEYS[2])",
      "    return \x7bowner, pttl, data\x7d"]

/-- A script as it is sent, with a line break before each line and after the last. -/
def Script.text (script : Script) : String :=
  String.join (script.lines.map ("\n" ++ ·)) ++ "\n"

end Leasehold
