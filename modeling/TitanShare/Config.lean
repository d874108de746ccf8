import TitanShare.Library.ByteText

/-!
# Compile-time constants of the daemon

The limits of `config.hpp` that the session code reads.  Durations are seconds; clock readings
elsewhere are nanoseconds.
-/

namespace TitanShare
namespace Config

/-- `MAX_CLIENTS` -/
def maxClients : Nat := 64

/-- `MIRROR_PORT` -/
def mirrorPort : Nat := 5001

/-- `PAIRING_PIN_SECS` -/
def pairingPinSecs : Nat := 300

/-- `PAIRING_PIN_DIGITS` -/
def pairingPinDigits : Nat := 6

/-- `MAX_RECENT_PINS` -/
def maxRecentPins : Nat := 12

/-- `AUTH_ATTEMPTS_PER_CONNECTION` -/
def authAttemptsPerConnection : Nat := 3

/-- `AUTH_FAIL_THRESHOLD` -/
def authFailThreshold : Nat := 5

/-- `AUTH_BAN_INITIAL_SECS` -/
def authBanInitialSecs : Nat := 30

/-- `AUTH_BAN_MAX_SECS` -/
def authBanMaxSecs : Nat := 3600

/-- `AUTH_MAX_BUFFER` -/
def authMaxBuffer : Nat := 4096

/-- `MAX_RECEIVE_FILE_BYTES` -/
def maxReceiveFileBytes : Nat := 2 * 2 ^ 30

/-- `READ_BUFFER_SIZE` -/
def readBufferSize : Nat := 65536

/-- The dead space above which `consumeBuffer` compacts. -/
def compactThreshold : Nat := 262144

/-- `CHUNK` of `pushFile`. -/
def pushChunk : Nat := 131072

/-- Nanoseconds in one second of the steady clock. -/
def nanosPerSec : Nat := 1000000000

end Config
end TitanShare
