import ObjectStorage.Proofs.Client.Reading

/-!
# What a refusal is told as

An answer is passed on with its body unread. Of a refusal the body is read, and when it has ended,
in whatever way, there is an error of the service with the status of the response: what the body
tells, if it has a code, and else how the body begins.
-/
namespace ObjectStorage

namespace Refusal

end Refusal

namespace Response

end Response

end ObjectStorage
